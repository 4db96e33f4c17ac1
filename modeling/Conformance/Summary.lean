import Conformance.Failure
import Conformance.Text.Blank

/-!
# Conformance.Summary

Everything a session produced, and its text:

1. a rule of `=`, and the line that names what was checked, seed and run;
2. one line for each invariant, marked `[OK]`, `[FAIL]` or `[SKIP]`;
3. for each failure a rule of `─` and its parts, a part to a line;
4. a rule, and how many invariants held and how many failures there are;
5. a word of caution if there are invariants and no failures.
-/

namespace Conformance

/-- What a session produced. -/
structure Summary where
  runId : String
  seed : Int
  outcomes : List Outcome := []
  failures : List Failure := []
deriving Repr, Inhabited, DecidableEq

namespace Summary

/-- Whether nothing failed. -/
def ok (s : Summary) : Bool := s.failures.isEmpty

/-- How many invariants held. -/
def heldCount (s : Summary) : Nat := (s.outcomes.filter (·.status == .held)).length

/-- How wide a rule is. -/
def width : Nat := 60

/-- A line of one character. -/
def rule (c : Char) : String := String.ofList (List.replicate width c)

/-- What marks the line of an invariant. -/
def marker : Status → String
  | .held => "[OK]  "
  | .violated => "[FAIL]"
  | .aborted => "[SKIP]"

/-- The line of an invariant. -/
def outcomeLine (o : Outcome) : String := marker o.status ++ " " ++ o.summary

/-- A line unless its content is empty. -/
def unlessEmpty (label content : String) : List String :=
  if content.isEmpty then [] else [label ++ content]

/-- The line that heads a failure: its kind, and the invariant or function it is about. -/
def heading (f : Failure) : String :=
  let subject := if f.invariant.isEmpty then f.function else f.invariant
  String.ofList (Text.trimEnd Text.isBlank ("[" ++ f.kind.text.toUpper ++ "] " ++ subject).toList)

/-- Where a failure stands: an argument with the path into it, or a path alone. -/
def placeLines (f : Failure) : List String :=
  match f.argument with
  | none => unlessEmpty "Path     : " f.path
  | some i =>
    let argument := "argument " ++ toString i
    ["Location : " ++ if f.path.isEmpty then argument else "field `" ++ f.path ++ "` of " ++ argument]

/-- The lines of a failure. -/
def failureLines (f : Failure) : List String :=
  [rule '─', heading f] ++ placeLines f ++ unlessEmpty "Expected : " f.expected ++
    unlessEmpty "Actual   : " f.actual ++
    (f.trial.toList.map fun i => "Trial    : " ++ toString i) ++ ["Detail   : " ++ f.message]

/-- The lines of a summary. -/
def lines (s : Summary) (target : String) : List String :=
  let target := if target.isEmpty then "module" else target
  [rule '=', "Checked " ++ target ++ "  (seed=" ++ toString s.seed ++ ", run=" ++ s.runId ++ ")"] ++
    s.outcomes.map outcomeLine ++ s.failures.flatMap failureLines ++
    [rule '=',
      "[SUMMARY] " ++ toString s.heldCount ++ "/" ++ toString s.outcomes.length ++
        " invariant(s) held, " ++ toString s.failures.length ++ " failure(s)"] ++
    if s.outcomes.isEmpty || !s.ok then []
    else ["No counterexample found. This is evidence, not proof."]

/-- The text of a summary. -/
def render (s : Summary) (target : String) : String :=
  "\n".intercalate (s.lines target)

end Summary

end Conformance
