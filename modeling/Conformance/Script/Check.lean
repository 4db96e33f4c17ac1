import Conformance.Script.Statement

/-!
# Conformance.Script.Check

A check of one target: its script runs in a fresh active session that logs
what it reports.  An error that leaves the script ends it and is accounted
for; one that ends runs passes through.
-/

namespace Conformance

/-- What a check asks for. -/
structure CheckRequest where
  target : String
  settings : Settings
  /-- the master seed, that of the settings if there is none -/
  seed : Option Int := none
  /-- the trials of declarations that do not state their own, in place of the settings' -/
  trials : Option Int := none

namespace CheckRequest

/-- The settings of the session. -/
def sessionSettings (c : CheckRequest) : Settings :=
  match c.trials with
  | some n => { c.settings with checking := { c.settings.checking with defaultTrials := n } }
  | none => c.settings

/-- Whether a target names a file that holds a script. -/
def isLoadable (target : String) : Bool := target.endsWith ".py"

/-- The error for a target that holds no script. -/
def notLoadable (target : String) : Error :=
  .foreign "ImportError" (some ("cannot load " ++ target ++ " as a Python module"))

/-- Runs the script of a target, or refuses the target. -/
def load (target : String) (script : Script) : Act Workspace (List Result × Option Fault) :=
  if isLoadable target then script.run else pure ([], some (.of (notLoadable target)))

/-- Runs the script in the session that is open and accounts for its error. -/
def runInside (target : String) (script : Script) : Act Workspace (List Result × Bool) := do
  match ← load target script with
  | (results, none) => pure (results, true)
  | (results, some (.raised e ticket)) =>
    if e.isOrdinary then do
      let _ ← Workspace.inSession (Session.recordError e ticket)
      pure (results, false)
    else throw (.raised e ticket)
  | (_, some .unfinished) => throw .unfinished

/-- Checks a target: what the session produced, the results of the
statements, and whether the script came to its end. -/
def run (c : CheckRequest) (script : Script) : Act Workspace (Summary × List Result × Bool) := do
  let (held, session) ←
    Workspace.within c.sessionSettings .log c.seed true (runInside c.target script)
  let (results, complete) ← held
  pure (session.summary, results, complete)

end CheckRequest

end Conformance
