import Conformance.CommandLine.Arguments
import Conformance.CommandLine.FileName
import Conformance.Log
import Conformance.Script.Check

/-!
# Conformance.CommandLine.Command

The command `check`: it runs the script of a target and prints what came of it.

1. The command line is read; if that fails, the command ends with code 2, and
   with code 0 if it asks for help.
2. The target and the file of settings have to exist and the number of trials
   has to be positive; what is wrong first is said, and the code is 2.
3. The settings are those of the file and the environment, except that the
   command line may name another level or format of logs.
4. The code is 0 if nothing failed and 1 otherwise.

An error outside the script's own, such as in the settings, ends the command
as it is.
-/

namespace Conformance.CommandLine

/-- What a command finds around it. -/
structure Host where
  /-- the files that it can read, by their names -/
  files : List (String × String)
  /-- the script of a target -/
  script : String → Script
  /-- the functions that are defined, the environment and the seeds -/
  workspace : Workspace

/-- What a command leaves behind besides its events. -/
structure Terminal where
  output : String := ""
  errors : List String := []
  /-- which events are written -/
  logging : Logging := {}
deriving Repr, Inhabited

/-- How a command ends. -/
inductive Exit
  /-- the command line was not followed -/
  | usage (code : Nat)
  | code (n : Nat)
deriving Repr, DecidableEq, Inhabited

namespace Host

/-- The text of a file. -/
def file? (h : Host) (name : String) : Option String := h.files.lookup name

/-- What is wrong with the arguments. -/
def complaint? (h : Host) (a : Arguments) : Option String :=
  let config := a.config.map FileName.plain
  if (h.file? (FileName.plain a.target)).isNone then
    some ("no such file: " ++ FileName.plain a.target)
  else if config.any fun name => (h.file? name).isNone then
    some ("no such config file: " ++ config.getD "")
  else if a.trials.any (· < 1) then some "--trials must be a positive integer"
  else none

end Host

/-- Text that is given and not empty. -/
def stated (given : Option String) (otherwise : String) : String :=
  match given with
  | some s => if s.isEmpty then otherwise else s
  | none => otherwise

/-- The settings that a command line asks for. -/
def settings (h : Host) (a : Arguments) : Except Error Settings := do
  let loaded ← Settings.load ((a.config.map FileName.plain).bind h.file?) h.workspace.environment
  pure { loaded with
    logging :=
      { level := stated a.logLevel loaded.logging.level
        format := stated a.logFormat loaded.logging.format } }

/-- Runs the script of a target and prints what came of it. -/
def check (h : Host) (a : Arguments) : Act Terminal Exit := do
  let settings ← Act.ofExcept (settings h a)
  modify fun t => { t with logging := settings.logging }
  let target := FileName.plain a.target
  let request : CheckRequest := { target, settings, seed := a.seed, trials := a.trials }
  let (summary, _) ← ((request.run (h.script target) h.workspace).1 : Run _)
  modify fun t => { t with output := t.output ++ summary.render target ++ "\n" }
  pure (.code (if summary.ok then 0 else 1))

/-- The names of the files that a command line speaks of. -/
def fileNames (argv : List String) : List String :=
  match read argv with
  | .arguments a => (a.target :: a.config.toList).map FileName.plain
  | _ => []

/-- Follows a command line. -/
def run (h : Host) (argv : List String) : Act Terminal Exit :=
  match read argv with
  | .help => pure (.usage 0)
  | .refused => pure (.usage 2)
  | .arguments a =>
    match h.complaint? a with
    | some text => do
      modify fun t => { t with errors := t.errors ++ ["[ERROR] " ++ text] }
      pure (.code 2)
    | none => check h a

end Conformance.CommandLine
