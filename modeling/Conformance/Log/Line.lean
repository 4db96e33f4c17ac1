import Conformance.Format.Json.Written
import Conformance.Log

/-!
# Conformance.Log.Line

Events as lines: one JSON object, or the level, the name and the fields one
after the other.
-/

namespace Conformance.Event

/-- An event as one JSON object. -/
def object (e : Event) : String :=
  Json.object ((e.fields.map fun f => (f.1, Json.written f.2)) ++
    [("event", Json.quoted e.name), ("level", Json.quoted e.level.text)])

/-- An event for a reader. -/
def sentence (e : Event) : String :=
  "[" ++ e.level.text ++ "] " ++ " ".intercalate
    (e.name :: e.fields.map fun f => f.1 ++ "=" ++ f.2.written)

/-- The line of an event. -/
def line (l : Logging) (e : Event) : String :=
  if l.isStructured then e.object else e.sentence

end Conformance.Event
