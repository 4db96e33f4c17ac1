import Conformance.Settings.Field
import Conformance.Value.Written

/-!
# Conformance.Settings.Section

The three sections read from mappings, and written as mappings.  All fields
of a section are looked at, in their order, and every fault is kept.  A field
that is absent has its default; what no field asks for is passed over.
-/

namespace Conformance.Settings

/-- A result, or all the faults on the way to it. -/
def Audited (α : Type) := Except (List SettingFault) α

namespace Audited

instance : Functor Audited where
  map f x :=
    match x with
    | .ok a => .ok (f a)
    | .error faults => .error faults

/-- Faults of both sides are kept. -/
instance : Applicative Audited where
  pure a := .ok a
  seq f x :=
    match f, x () with
    | .ok f, .ok a => .ok (f a)
    | .ok _, .error faults | .error faults, .ok _ => .error faults
    | .error faults, .error more => .error (faults ++ more)

/-- A check of the whole once all parts are right. -/
def andThen {α β : Type} (x : Audited α) (f : α → Audited β) : Audited β :=
  match x with
  | .ok a => f a
  | .error faults => .error faults

/-- Faults as an error. -/
def toExcept {α : Type} : Audited α → Except Error α
  | .ok a => .ok a
  | .error faults => .error (.settings faults)

end Audited

/-- Reads a field of a section that stands at a location. -/
def field {α : Type} (place : List Value) (entries : List (Value × Value)) (name : String)
    (accept : Value → Except Field.Rule α) (otherwise : α) : Audited α :=
  match Value.lookupText entries name with
  | none => .ok otherwise
  | some v =>
    match accept v with
    | .ok a => .ok a
    | .error rule => .error [⟨place ++ [.str name], rule.text, none⟩]

end Settings

open Settings

namespace Checking

/-- The name of the section. -/
def sectionName : String := "checking"

def read (place : List Value) (entries : List (Value × Value)) : Audited Checking :=
  Checking.mk
    <$> field place entries "default_trials" (Field.integerFrom 1) ({} : Checking).defaultTrials
    <*> field place entries "seed" Field.optionalInteger none
    <*> field place entries "localize_failures" Field.boolean true
    <*> field place entries "localization_attempts"
      (fun v => (Field.integerFrom 1 v).map Int.toNat) ({} : Checking).localizationAttempts
    <*> field place entries "fail_fast" Field.boolean false

/-- The fields with their values. -/
def fields (c : Checking) : List (String × Value) :=
  [("default_trials", .int c.defaultTrials), ("seed", (c.seed.map Value.int).getD .nothing),
    ("localize_failures", .bool c.localizeFailures),
    ("localization_attempts", .int c.localizationAttempts), ("fail_fast", .bool c.failFast)]

end Checking

namespace Sampling

/-- The name of the section. -/
def sectionName : String := "generator"

/-- Refuses bounds in the wrong order. -/
def checkBounds (place : List Value) (s : Sampling) : Audited Sampling :=
  if s.numberMax < s.numberMin then
    .error [⟨place, "value_error",
      some ("Value error, number_min (" ++ Value.floatLayout.write s.numberMin ++
        ") exceeds number_max (" ++ Value.floatLayout.write s.numberMax ++ ")")⟩]
  else .ok s

def read (place : List Value) (entries : List (Value × Value)) : Audited Sampling :=
  Audited.andThen
    ((Sampling.mk · · · · ({} : Sampling).patience)
      <$> field place entries "max_string_length"
        (fun v => (Field.integerFrom 0 v).map Int.toNat) ({} : Sampling).maxStringLength
      <*> field place entries "maybe_nothing_probability" Field.probability
        ({} : Sampling).nothingProbability
      <*> field place entries "number_min" Field.float ({} : Sampling).numberMin
      <*> field place entries "number_max" Field.float ({} : Sampling).numberMax)
    (checkBounds place)

/-- The fields with their values. -/
def fields (s : Sampling) : List (String × Value) :=
  [("max_string_length", .int s.maxStringLength),
    ("maybe_nothing_probability", .float s.nothingProbability),
    ("number_min", .float s.numberMin), ("number_max", .float s.numberMax)]

end Sampling

namespace Logging

/-- The name of the section. -/
def sectionName : String := "logging"

def read (place : List Value) (entries : List (Value × Value)) : Audited Logging :=
  Logging.mk
    <$> field place entries "level" Field.text ({} : Logging).level
    <*> field place entries "format" Field.text ({} : Logging).format

/-- The fields with their values. -/
def fields (l : Logging) : List (String × Value) :=
  [("level", .str l.level), ("format", .str l.format)]

end Logging

namespace Settings

/-- Reads a section under its name, the default one if it is absent. -/
def readSection {α : Type} (sections : List (Value × Value)) (name : String) (otherwise : α)
    (read : List Value → List (Value × Value) → Audited α) : Audited α :=
  match Value.lookupText sections name with
  | none => .ok otherwise
  | some (.dict entries) => read [.str name] entries
  | some _ => .error [⟨[.str name], "model_type", none⟩]

/-- Reads all sections. -/
def read (sections : List (Value × Value)) : Audited Settings :=
  Settings.mk
    <$> readSection sections Checking.sectionName {} Checking.read
    <*> readSection sections Sampling.sectionName {} Sampling.read
    <*> readSection sections Logging.sectionName {} Logging.read

/-- The names of the sections. -/
def sectionNames : List String :=
  [Checking.sectionName, Sampling.sectionName, Logging.sectionName]

/-- The fields of each section. -/
def sections (s : Settings) : List (String × List (String × Value)) :=
  [(Checking.sectionName, s.checking.fields), (Sampling.sectionName, s.sampling.fields),
    (Logging.sectionName, s.logging.fields)]

end Settings

end Conformance
