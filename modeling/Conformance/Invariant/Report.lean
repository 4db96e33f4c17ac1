import Conformance.Error

/-!
# Conformance.Invariant.Report

What became of one declared invariant:

* `held` — no counterexample among the trials, which proves nothing more;
* `violated` — with the counterexample;
* `aborted` — nothing could be sampled, with the error.

A `Report` holds the live values; an `Outcome` is its summary in words.
-/

namespace Conformance

/-- How the check of an invariant ended. -/
inductive Status
  | held | violated | aborted
deriving DecidableEq, Repr, Inhabited

namespace Status

def text : Status → String
  | held => "held"
  | violated => "violated"
  | aborted => "aborted"

def all : List Status := [held, violated, aborted]

/-- The status written `s`. -/
def ofText? (s : String) : Option Status := all.find? (·.text == s)

end Status

/-- The report on one invariant. -/
structure Report where
  invariant : String
  status : Status
  trialsRequested : Int
  trialsRun : Int
  seed : Int
  counterexample : Option (CounterExample Error) := none
  error : Option Error := none
deriving Repr, Inhabited

namespace Report

def held (r : Report) : Bool := r.status == .held

/-- One line on how the check ended. -/
def summary (r : Report) : Except Error String :=
  let label := if r.invariant.isEmpty then "invariant" else r.invariant
  match r.status, r.counterexample with
  | .held, _ =>
    .ok (label ++ ": held for " ++ toString r.trialsRun ++ " trials (seed=" ++ toString r.seed ++ ")")
  | .violated, some c =>
    c.describe.map fun told =>
      label ++ ": violated on trial " ++ toString c.trial ++ "/" ++ toString r.trialsRequested ++
        ": " ++ told
  | _, _ => .ok (label ++ ": aborted: " ++ (r.error.map Error.text).getD "None")

/-- Raises the violation, or the error that aborted the check. -/
def demand (r : Report) : Except Error Unit :=
  match r.status, r.counterexample, r.error with
  | .violated, some c, _ => do .error (← Error.ofCounterExample c r.invariant)
  | .aborted, _, some e => .error e
  | _, _, _ => .ok ()

end Report

/-- A report in words. -/
structure Outcome where
  invariant : String
  status : Status
  trialsRequested : Int
  trialsRun : Int
  seed : Int
  summary : String
deriving Repr, Inhabited, DecidableEq

/-- A report in words, if its counterexample can be told. -/
def Outcome.ofReport (r : Report) : Except Error Outcome :=
  r.summary.map fun summary =>
    ⟨r.invariant, r.status, r.trialsRequested, r.trialsRun, r.seed, summary⟩

end Conformance
