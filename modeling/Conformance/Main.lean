import Conformance.CommandLine.Command
import Conformance.Example.Battle
import Conformance.Log.Line

/-!
# Conformance.Main

The program: it gathers files, environment and seeds, follows the command
line, and prints.
-/

namespace Conformance.Main

/-- The last part of the name of a file. -/
def baseName (name : String) : String :=
  String.ofList (name.toList.reverse.takeWhile (· != '/')).reverse

/-- The scripts that are linked into the program, by the names of their targets. -/
def scripts : List (String × Script) := [("battle.py", Example.Battle.script)]

/-- The script of a target; for one that is not linked, its error. -/
def script (target : String) : Script :=
  (scripts.lookup (baseName target)).getD
    [.raise (.foreign "ImportError" (some ("no script is linked for " ++ target)))]

/-- The names of the variables that are looked up. -/
def variableNames : List String :=
  ({} : Settings).sections.flatMap fun s =>
    let section_ := Environment.marker ++ s.1.toUpper
    section_ :: s.2.map fun f => section_ ++ Environment.separator ++ f.1.toUpper

/-- The variables that are set. -/
def environment : IO Environment := do
  let found ← variableNames.filterMapM fun name => do
    return (← IO.getEnv name).map fun v => (name, v)
  return Environment.ofList found

/-- The files among the named that can be read. -/
def files (names : List String) : IO (List (String × String)) :=
  names.filterMapM fun (name : String) => do
    try
      let text ← IO.FS.readFile name
      return some (name, text)
    catch _ => return none

/-- The characters of ids. -/
def idAlphabet : List Char := "0123456789ABCDEFGHJKMNPQRSTVWXYZ".toList

/-- An id of its own for a run. -/
def freshId : IO String := do
  let cs ← (List.range 26).mapM fun _ => do
    return idAlphabet.getD (← IO.rand 0 (idAlphabet.length - 1)) '0'
  return String.ofList cs

/-- What the program says about its use. -/
def usage : String :=
  "usage: check TARGET [--trials N] [--seed N] [--config FILE] [--log-level LEVEL] " ++
    "[--log-format console|json]"

/-- Ends the program on a fault. -/
def report : Fault → IO UInt32
  | .raised e _ => do
    IO.eprintln (e.kind ++ ": " ++ e.text)
    return 1
  | .unfinished => do
    IO.eprintln "the draws did not come to an end"
    return 1

end Conformance.Main

open Conformance Conformance.Main in
def main (argv : List String) : IO UInt32 := do
  let workspace : Workspace :=
    { library := Example.Battle.library, environment := ← environment, runId := ← freshId,
      freshSeed := ← IO.rand 0 0xffffffff }
  let host : CommandLine.Host := { files := ← files (CommandLine.fileNames argv), script, workspace }
  let (r, terminal) := CommandLine.run host argv {}
  for e in terminal.logging.written r.effects do
    IO.eprintln (e.line terminal.logging)
  for s in terminal.errors do
    IO.eprintln s
  IO.print terminal.output
  match r.outcome with
  | .ok (.usage code) =>
    IO.eprintln usage
    return code.toUInt32
  | .ok (.code n) => return n.toUInt32
  | .error fault => report fault
