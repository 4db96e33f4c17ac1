import Conformance.Session
import Conformance.Settings.Load

/-!
# Conformance.Script.Workspace

Where scripts run: the functions defined so far and the sessions that are
open, innermost first.

A session that is active takes the declarations that name no session.  Where
none is active, a default session takes them; it is opened when it is first
needed, with the settings of its file and of the environment, logs its
failures, and stays open.
-/

namespace Conformance

/-- An open session. -/
structure Frame where
  session : Session
  active : Bool

/-- The state of scripts. -/
structure Workspace where
  library : Library := {}
  environment : Environment := []
  /-- the file with the settings of the default session -/
  defaultFile : Option String := none
  /-- by what a run is known -/
  runId : String
  /-- the seed of a session that is given none -/
  freshSeed : Int
  frames : List Frame := []
  default : Option Session := none
  /-- how many sessions have been opened -/
  opened : Nat := 0

namespace Workspace

variable {α : Type}

/-- A computation of the innermost session. -/
def inSession (x : Act Session α) : Act Workspace α := fun w =>
  match w.frames with
  | [] => (Run.raise (.intrinsic .member), w)
  | f :: frames =>
    let (r, s) := x f.session
    (r, { w with frames := { f with session := s } :: frames })

/-- A computation of the default session. -/
def inDefault (x : Act Session α) : Act Workspace α := fun w =>
  match w.default with
  | some s =>
    let (r, s) := x s
    (r, { w with default := some s })
  | none =>
    match Settings.load w.defaultFile w.environment with
    | .error e => (Run.raise e, w)
    | .ok settings =>
      let (r, s) := x (Session.start w.opened w.runId settings .log none w.freshSeed)
      (r, { w with default := some s, opened := w.opened + 1 })

/-- A computation of the session that takes declarations which name none. -/
def inCurrent (x : Act Session α) : Act Workspace α := fun w =>
  if w.frames.head?.any (·.active) then inSession x w else inDefault x w

/-- Opens a session for a computation, which is held back, and closes it
behind it.  The closed session is the second result. -/
def within (settings : Settings) (reporter : Reporter) (seed : Option Int) (active : Bool)
    (x : Act Workspace α) : Act Workspace (Run α × Session) := fun w =>
  let s := Session.start w.opened w.runId settings reporter seed w.freshSeed
  let (r, w) := x { w with frames := ⟨s, active⟩ :: w.frames, opened := w.opened + 1 }
  let s := (w.frames.head?.map (·.session)).getD s
  (pure (r, s), { w with frames := w.frames.drop 1 })

/-- Changes the functions defined so far. -/
def defining (f : Library → Library × α) : Act Workspace α := fun w =>
  let (library, a) := f w.library
  (pure a, { w with library })

end Workspace

end Conformance
