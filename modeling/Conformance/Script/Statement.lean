import Conformance.Script.Workspace

/-!
# Conformance.Script.Statement

Scripts: statements that declare invariants, define checked functions and
call them, and that look into sessions.  A script ends at the first statement
that raises.
-/

namespace Conformance

/-- A statement. -/
inductive Statement
  /-- declares an invariant, in the innermost session or in the current one -/
  | declare (current : Bool) (d : Declaration)
  /-- names a checked function -/
  | annotate (signature implementation : Value) (name : String)
  /-- calls a named function -/
  | call (name : String) (x : Value)
  /-- checks a value against a descriptor -/
  | check (d v : Value)
  /-- shows a descriptor -/
  | build (d : Value)
  | raise (e : Error)
  /-- accounts for an error as if it had been caught -/
  | record (e : Error)
  /-- runs a statement and accounts for its error -/
  | recordCaught (s : Statement)
  | recordFailure (f : Failure)
  /-- the seed of the current session -/
  | currentSeed
  /-- what the current session has produced -/
  | currentSummary
  /-- what the innermost session has produced, with its text -/
  | summary (target : String)
  /-- what a collecting reporter has received -/
  | reported
  | settings
  /-- draws the tuple of a trial -/
  | replay (descriptors : Value) (trialSeed : Int)
  /-- runs statements in an active session of their own, each by itself -/
  | use (seed : Option Int) (settings : Value) (reporter : Reporter) (body : List Statement)
  | skip
deriving Inhabited

/-- A sequence of statements. -/
abbrev Script := List Statement

/-- What a statement results in. -/
inductive Result
  | nothing
  | value (v : Value)
  | text (s : String)
  | report (r : Report)
  | failure (f : Option Failure)
  /-- the error of the statement within, and what was made of it -/
  | caught (found : Option (Error × Option Failure))
  | summary (s : Summary) (text : Option String)
  | reported (failures : List Failure) (successes : List Report)
  | settings (s : Settings)
  | used (active : Bool) (steps : List (Run Result))
deriving Inhabited

namespace Statement

/-- A value whose text is asked for as a descriptor. -/
def shown : Value → Except Error String
  | .descriptor d => .ok d.render
  | _ => .error (.intrinsic .member)

mutual
/-- Runs a statement. -/
def run : Statement → Act Workspace Result
  | declare current d => do
    let lib := (← get).library
    let x := Session.declare lib d
    let r ← if current then Workspace.inCurrent x else Workspace.inSession x
    pure (.report r)
  | annotate signature implementation name => do
    let (lib, f) ← Act.ofExcept ((← get).library.wrapValues signature implementation)
    Workspace.defining fun _ => (lib.bind name (.function f), .text f.written)
  | call name x => do
    let r ← ((← get).library.call name (.whole x .given) : Run Traced)
    pure (.value r.value)
  | check d v => do
    let d ← Act.ofExcept d.variant
    let v ← Act.ofExcept (d.check v)
    pure (.value v)
  | build d => do
    let s ← Act.ofExcept (shown d)
    pure (.text s)
  | raise e => Act.raise e
  | record e => do
    let f ← Workspace.inSession (Session.recordError e none)
    pure (.failure f)
  | recordCaught s => do
    let held ← Act.hold s.run
    Run.emit held.effects
    match held.outcome with
    | .ok _ => pure (.caught none)
    | .error (.raised e ticket) =>
      let f ← Workspace.inSession (Session.recordError e ticket)
      pure (.caught (some (e, f)))
    | .error .unfinished => throw .unfinished
  | recordFailure f => do
    Workspace.inSession (Session.recordFailure f)
    pure .nothing
  | currentSeed => do
    let s ← Workspace.inCurrent get
    pure (.value (.int s.seed))
  | currentSummary => do
    let s ← Workspace.inCurrent get
    pure (.summary s.summary none)
  | summary target => do
    let s ← Workspace.inSession get
    pure (.summary s.summary (some (s.summary.render target)))
  | reported => do
    let s ← Workspace.inSession get
    match s.reporter with
    | .collect failures successes => pure (.reported failures successes)
    | .log => Act.raise (.intrinsic .member)
  | settings => do
    let s ← Workspace.inSession get
    pure (.settings s.settings)
  | replay descriptors trialSeed => do
    let s ← Workspace.inSession get
    match s.runner.replay descriptors trialSeed with
    | .ok values => pure (.value (.list values))
    | .error fault => throw fault
  | use seed given reporter body => do
    let settings ← Act.ofExcept (Settings.ofValue (← get).environment given)
    let (steps, _) ← Workspace.within settings reporter seed true (runEach body)
    match steps.outcome with
    | .ok steps => pure (.used true steps)
    | .error fault => throw fault
  | skip => pure .nothing
/-- Runs each statement by itself. -/
def runEach : List Statement → Act Workspace (List (Run Result))
  | [] => pure []
  | s :: ss => do
    let r ← Act.hold s.run
    let rs ← runEach ss
    pure (r :: rs)
end

end Statement

/-- Runs statements up to the first that raises: the results before it, and
its fault. -/
def Script.run : Script → Act Workspace (List Result × Option Fault)
  | [] => pure ([], none)
  | s :: ss => do
    let held ← Act.hold s.run
    Run.emit held.effects
    match held.outcome with
    | .error fault => pure ([], some fault)
    | .ok r =>
      let (rs, fault) ← run ss
      pure (r :: rs, fault)

end Conformance
