import Conformance.Format.Yaml.Node
import Conformance.Settings.Environment

/-!
# Conformance.Settings.Load

The settings of a run: a file, the environment over it field by field, and
below both the lower layer of the environment and the defaults.
-/

namespace Conformance.Settings

/-- Whether a key is text. -/
def isText : Value → Bool
  | .str _ => true
  | _ => false

/-- The entry for a section: the one of its exact name, else the last one
whose name differs in case only. -/
def given? (entries : List (Value × Value)) (name : String) : Option Value :=
  match Value.lookupText entries name with
  | some v => some v
  | none =>
    (entries.reverse.find? fun e =>
      match e.1 with
      | .str s => Text.lower s == name
      | _ => false).map (·.2)

/-- A section given, laid over the lower layer of the environment. -/
def layered (env : Environment) (entries : List (Value × Value)) (name : String) :
    Except Error (List (Value × Value)) := do
  let below ← env.section? name
  match given? entries name, below with
  | some v, below => .ok [(.str name, Value.overlaid below v)]
  | none, some v => .ok [(.str name, v)]
  | none, none => .ok []

/-- The settings that a mapping of sections gives.  Its keys have to be text. -/
def ofValue (env : Environment) (v : Value) : Except Error Settings :=
  match v with
  | .dict entries => do
    if entries.all fun e => isText e.1 then
      let sections ← sectionNames.mapM (layered env entries)
      (Settings.read sections.flatten).toExcept
    else .error (.intrinsic .type)
  | _ => .error (.intrinsic .type)

/-- The value of a file; a file without content has no sections. -/
def ofFile (text : Option String) : Except Error Value :=
  match text with
  | none => .ok (.dict [])
  | some text => (Yaml.read text).map fun v => if v.truthy then v else .dict []

/-- The settings of a file, if there is one, and the environment. -/
def load (file : Option String) (env : Environment) : Except Error Settings := do
  let raw ← ofFile file
  let merged ← raw.merge (.dict env.overrides)
  ofValue env merged

end Conformance.Settings
