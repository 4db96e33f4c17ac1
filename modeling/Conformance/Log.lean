import Conformance.Run
import Conformance.Settings
import Conformance.Text.Case

/-!
# Conformance.Log

Which events are written.  The level of the settings is the name of a
severity, in any case; events below it are left out.  A name that is not
known stands for `WARNING`.
-/

namespace Conformance

namespace Logging

/-- The names of levels and the ranks from which on they let events through. -/
def levels : List (String × Nat) :=
  [("NOTSET", 0), ("DEBUG", 10), ("INFO", 20), ("WARN", 30), ("WARNING", 30), ("ERROR", 40),
    ("CRITICAL", 50), ("FATAL", 50)]

/-- The least rank of an event that is written. -/
def threshold (l : Logging) : Nat :=
  (levels.lookup (Text.upper l.level)).getD Level.warning.rank

/-- Whether an event is written. -/
def admits (l : Logging) (e : Event) : Bool := l.threshold ≤ e.level.rank

/-- Whether each event is written as one object on a line of its own. -/
def isStructured (l : Logging) : Bool := l.format = "json"

/-- The events among effects that are written. -/
def written (l : Logging) (effects : List Effect) : List Event :=
  (Effect.events effects).filter l.admits

theorem mem_written {l : Logging} {effects : List Effect} {e : Event} :
    e ∈ l.written effects ↔ e ∈ Effect.events effects ∧ l.admits e := by
  simp [written]

@[simp] theorem written_append (l : Logging) (xs ys : List Effect) :
    l.written (xs ++ ys) = l.written xs ++ l.written ys := by
  simp [written]

end Logging

/-- An event in a context, whose fields it takes over unless it has its own. -/
def Event.within (context : List (String × Value)) (e : Event) : Event :=
  { e with fields := e.fields ++ context.filter fun f => !e.fields.any (·.1 == f.1) }

end Conformance
