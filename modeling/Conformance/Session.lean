import Conformance.Invariant.Runner
import Conformance.Reporter
import Conformance.Summary

/-!
# Conformance.Session

A session checks invariants one after the other and keeps account:

1. every report is kept as an outcome, in order;
2. a report that an invariant held goes to the reporter as a success;
3. any other is kept as a failure and goes to the reporter as one, and is
   raised where it was declared if the settings say so;
4. an error that was caught outside is kept as a failure too, unless this
   session raised it itself.
-/

namespace Conformance

/-- A session under way. -/
structure Session where
  /-- tells sessions apart -/
  id : Nat
  runId : String
  settings : Settings
  runner : Runner
  reporter : Reporter
  outcomes : List Outcome := []
  failures : List Failure := []
  /-- how many errors it has raised -/
  raised : Nat := 0

namespace Session

/-- A session at its start, the seed as `Runner.start` has it. -/
def start (id : Nat) (runId : String) (settings : Settings) (reporter : Reporter)
    (seed : Option Int) (fresh : Int) : Session :=
  { id, runId, settings, reporter,
    runner := Runner.start settings.checking settings.sampling seed fresh }

def seed (s : Session) : Int := s.runner.seed

/-- What the session has produced. -/
def summary (s : Session) : Summary := ⟨s.runId, s.seed, s.outcomes, s.failures⟩

/-- A computation of the runner. -/
def running {α : Type} (x : Act Runner α) : Act Session α :=
  Act.on Session.runner (fun runner s => { s with runner }) x

/-- Keeps a failure and hands it to the reporter. -/
def recordFailure (f : Failure) : Act Session Unit := do
  modify fun s =>
    { s with failures := s.failures ++ [f], reporter := s.reporter.withFailure f }
  (← get).reporter.announceFailure f

/-- Hands a success to the reporter. -/
def recordSuccess (r : Report) : Act Session Unit := do
  modify fun s => { s with reporter := s.reporter.withSuccess r }
  (← get).reporter.announceSuccess r

/-- Raises an error that is this session's own. -/
def raiseOwn (e : Error) : Act Session Unit := do
  let s ← get
  set { s with raised := s.raised + 1 }
  throw (.raised e (some ⟨s.id, s.raised⟩))

/-- Raises what a report tells. -/
def demand (r : Report) : Act Session Unit :=
  match r.demand with
  | .ok () => pure ()
  | .error e => if e.isConformance then raiseOwn e else Act.raise e

/-- Accounts for a report: keeps its outcome, hands it to the reporter, and
raises it if the settings say so. -/
def account (report : Report) : Act Session Report := do
  let outcome ← Act.ofExcept (Outcome.ofReport report)
  modify fun s => { s with outcomes := s.outcomes ++ [outcome] }
  match ← Act.ofExcept (Failure.ofReport report) with
  | none => recordSuccess report
  | some f => do
    recordFailure f
    if (← get).settings.checking.failFast then demand report
  pure report

/-- Checks what was declared and accounts for the report. -/
def declare (lib : Library) (d : Declaration) : Act Session Report := do
  account (← running (Runner.declare lib d))

/-- Whether an error is one that this session raised. -/
def isOwn (s : Session) (ticket : Option Ticket) : Bool :=
  match ticket with
  | some t => t.session == s.id && t.serial < s.raised
  | none => false

/-- Accounts for an error that was caught, unless it is this session's own. -/
def recordError (e : Error) (ticket : Option Ticket) : Act Session (Option Failure) := do
  let s ← get
  if s.isOwn ticket then pure none
  else do
    let f ← Act.ofExcept (Failure.ofError e "")
    Run.log .debug "exception_recorded"
      [("system", .str "conformos.session"), ("run_id", .str s.runId), ("seed", .int s.seed),
        ("kind", .str f.kind.text), ("error", .str e.text)]
    recordFailure f
    pure (some f)

end Session

end Conformance
