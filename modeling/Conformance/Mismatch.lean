import Conformance.Path
import Conformance.Value.Brief

/-!
# Conformance.Mismatch

The first place at which a value departs from its descriptor: where, what
was expected there, what was found, and why that does not do.
-/

namespace Conformance

/-- A departure of a value from its descriptor. -/
structure Mismatch where
  path : Path
  expected : Descriptor
  actual : Value
  reason : String := ""
deriving Repr, Inhabited

namespace Mismatch

/-- The place in a message. -/
def location (m : Mismatch) : String := Path.place m.path.text

/-- The message: place, expectation, finding, and the reason if there is one. -/
def describe (m : Mismatch) : String :=
  "at " ++ m.location ++ ": expected " ++ m.expected.render ++ ", got " ++ m.actual.brief ++
    (if m.reason.isEmpty then "" else " (" ++ m.reason ++ ")")

end Mismatch

end Conformance
