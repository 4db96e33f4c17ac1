import Conformance.Format.Json
import Conformance.Settings.Merge
import Conformance.Settings.Section
import Conformance.Text.Lower

/-!
# Conformance.Settings.Environment

Settings from variables of the environment, in two layers.

* The upper layer, `overrides`: a variable `CONFORMOS_<SECTION>__<FIELD>`
  sets one field.  Section and field are what stands before and behind the
  first double underscore, in lower case.
* The lower layer, `section?`: a variable `CONFORMOS_<SECTION>` holds a
  section as JSON, and each `CONFORMOS_<SECTION>__A__B…` sets what is nested
  in it under the keys `a`, `b`, ….  Here the whole name may be in any case.
-/

namespace Conformance

/-- Variables with their values, in the order in which they were set. -/
abbrev Environment := List (String × String)

namespace Environment

/-- What every variable of this library begins with. -/
def marker : String := "CONFORMOS_"

/-- What stands between the parts of a name. -/
def separator : String := "__"

/-- Splits a text at the first separator, if there is one. -/
def splitFirst : List Char → List Char × List Char
  | '_' :: '_' :: rest => ([], rest)
  | c :: rest => let (front, back) := splitFirst rest; (c :: front, back)
  | [] => ([], [])

/-- Splits a text at every separator, from left to right. -/
def splitAll : List Char → List (List Char)
  | '_' :: '_' :: rest => [] :: splitAll rest
  | c :: rest =>
    match splitAll rest with
    | part :: parts => (c :: part) :: parts
    | [] => [[c]]
  | [] => [[]]

/-- Sets a variable: one that is there keeps its place. -/
def set (name value : String) : Environment → Environment
  | [] => [(name, value)]
  | (n, v) :: env => if n = name then (n, value) :: env else (n, v) :: set name value env

/-- The variables as they stand after all have been set. -/
def ofList (settings : List (String × String)) : Environment :=
  settings.foldl (fun env v => set v.1 v.2 env) []

/-- The value of a variable. -/
def get? (env : Environment) (name : String) : Option String := env.lookup name

/-! ## The upper layer -/

/-- The section and field that a variable sets. -/
def target? (name : String) : Option (String × String) := do
  let rest ← marker.toList.isPrefixOf? name.toList
  let (front, back) := splitFirst (Text.lower (String.ofList rest)).toList
  if front.isEmpty || back.isEmpty then none
  else some (String.ofList front, String.ofList back)

/-- One field of one section as a mapping of mappings. -/
def fieldEntry (section_ field value : String) : List (Value × Value) :=
  [(.str section_, .dict [(.str field, .str value)])]

/-- The fields that variables set, by section. -/
def overrides (env : Environment) : List (Value × Value) :=
  env.foldl (fun entries v =>
    match target? v.1 with
    | some (section_, field) => Value.mergeEntries entries (fieldEntry section_ field v.2)
    | none => entries) []

/-! ## The lower layer -/

/-- The variables under their names in lower case. -/
def lowered (env : Environment) : Environment :=
  ofList (env.map fun v => (Text.lower v.1, v.2))

/-- Sets what is nested under keys.  Where something else than a mapping
stands on the way, nothing is set. -/
def setNested (value : String) : List String → List (Value × Value) → List (Value × Value)
  | [], entries => entries
  | [key], entries => Value.insert (.str key) (.str value) entries
  | key :: keys, entries =>
    match Value.lookupText entries key with
    | none => Value.insert (.str key) (.dict (setNested value keys [])) entries
    | some (.dict inner) => Value.insert (.str key) (.dict (setNested value keys inner)) entries
    | some _ => entries

/-- What variables nest into a section. -/
def nested (env : Environment) (name : String) : List (Value × Value) :=
  env.lowered.foldl (fun entries v =>
    match (Text.lower marker ++ name ++ separator).toList.isPrefixOf? v.1.toList with
    | some rest => setNested v.2 ((splitAll rest).map String.ofList) entries
    | none => entries) []

/-- The entries of a section under the names of its fields. -/
def renamed (fields : List String) (entries : List (Value × Value)) : List (Value × Value) :=
  Value.ofEntries (entries.map fun e =>
    match e.1 with
    | .str s => (.str ((fields.find? (· == Text.lower s)).getD s), e.2)
    | _ => e)

/-- The names of the fields of a section. -/
def fieldNames (name : String) : List String :=
  ((({} : Settings).sections.lookup name).getD []).map (·.1)

/-- A section of the lower layer, none if nothing is set. -/
def section? (env : Environment) (name : String) : Except Error (Option Value) :=
  let inner := env.nested name
  match env.lowered.get? (Text.lower marker ++ name) with
  | none =>
    .ok (if inner.isEmpty then none else some (.dict (renamed (fieldNames name) inner)))
  | some text =>
    match Json.read? text with
    | none => .error (.intrinsic .settings)
    | some .nothing => .ok none
    | some (.dict entries) =>
      .ok (some (.dict (renamed (fieldNames name) (Value.mergeEntries entries inner))))
    | some v => .ok (some v)

end Environment

end Conformance
