import Conformance.Failure
import Conformance.Run

/-!
# Conformance.Reporter

Where failures and successes go: into the log, or into two lists that keep
them in the order in which they came.
-/

namespace Conformance

/-- A receiver of everything that is reported. -/
inductive Reporter
  | log
  | collect (failures : List Failure) (successes : List Report)
deriving Repr, Inhabited

namespace Reporter

/-- A field of an event: nothing for empty text. -/
def unlessEmpty (s : String) : Value :=
  if s.isEmpty then .nothing else .str s

/-- An event of the reporter. -/
def event (level : Level) (name : String) (fields : List (String × Value)) : Run Unit :=
  Run.log level name (("system", .str "conformos.engine.reporting") :: fields)

/-- The reporter after a failure. -/
def withFailure (f : Failure) : Reporter → Reporter
  | log => log
  | collect failures successes => collect (failures ++ [f]) successes

/-- What a reporter logs about a failure. -/
def announceFailure (f : Failure) : Reporter → Run Unit
  | log =>
    event .error "conformance_failure"
      [("kind", .str f.kind.text), ("invariant", unlessEmpty f.invariant),
        ("function", unlessEmpty f.function), ("path", unlessEmpty f.path),
        ("expected", unlessEmpty f.expected), ("actual", unlessEmpty f.actual),
        ("trial", (f.trial.map Value.int).getD .nothing), ("message", .str f.message)]
  | collect .. => pure ()

/-- The reporter after a success. -/
def withSuccess (r : Report) : Reporter → Reporter
  | log => log
  | collect failures successes => collect failures (successes ++ [r])

/-- What a reporter logs about a success. -/
def announceSuccess (r : Report) : Reporter → Run Unit
  | log =>
    event .info "invariant_held"
      [("invariant", .str r.invariant), ("trials", .int r.trialsRun), ("seed", .int r.seed)]
  | collect .. => pure ()

end Reporter

end Conformance
