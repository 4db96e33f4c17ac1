import Conformance.Error

/-!
# Conformance.Run

Computations that leave traces.  A `Run` has an outcome — a result or a
fault — and the list of what it did on the way: the defined functions it
called and the events it logged, in order.  A run reads no state, so a
function into `Run` answers equal arguments equally.
-/

namespace Conformance

/-- The severities of events. -/
inductive Level
  | debug | info | warning | error
deriving DecidableEq, Repr, Inhabited

namespace Level

def text : Level → String
  | debug => "debug"
  | info => "info"
  | warning => "warning"
  | error => "error"

/-- The number by which severities compare. -/
def rank : Level → Nat
  | debug => 10
  | info => 20
  | warning => 30
  | error => 40

end Level

/-- A logged event: its name and its fields. -/
structure Event where
  level : Level
  name : String
  fields : List (String × Value)
deriving Repr, Inhabited

/-- What a computation does besides computing. -/
inductive Effect
  /-- a defined function of that name was called -/
  | called (name : String)
  | logged (event : Event)
deriving Repr, Inhabited

/-- A computation with its effects. -/
structure Run (α : Type) where
  outcome : Except Fault α
  effects : List Effect
deriving Repr

namespace Run

/-- The same outcome after further effects. -/
def after {α : Type} (effects : List Effect) (r : Run α) : Run α :=
  ⟨r.outcome, effects ++ r.effects⟩

/-- A result without effects. -/
protected def pure {α : Type} (a : α) : Run α := ⟨.ok a, []⟩

/-- One computation after another; a fault of the first leaves out the second. -/
protected def bind {α β : Type} (r : Run α) (f : α → Run β) : Run β :=
  match r.outcome with
  | .ok a => after r.effects (f a)
  | .error fault => ⟨.error fault, r.effects⟩

/-- A computation whose fault is dealt with. -/
protected def tryCatch {α : Type} (r : Run α) (handle : Fault → Run α) : Run α :=
  match r.outcome with
  | .ok _ => r
  | .error fault => after r.effects (handle fault)

instance : Monad Run where
  pure := Run.pure
  bind := Run.bind

instance : MonadExcept Fault Run where
  throw fault := ⟨.error fault, []⟩
  tryCatch := Run.tryCatch

/-- Raises an error for the first time. -/
def raise {α : Type} (e : Error) : Run α := ⟨.error (.of e), []⟩

/-- A result that may be an error. -/
def ofExcept {α : Type} : Except Error α → Run α
  | .ok a => Run.pure a
  | .error e => raise e

/-- Logs an event. -/
def log (level : Level) (name : String) (fields : List (String × Value)) : Run Unit :=
  ⟨.ok (), [.logged ⟨level, name, fields⟩]⟩

/-- Effects without a result of interest. -/
def emit (effects : List Effect) : Run Unit := ⟨.ok (), effects⟩

/-- Notes the call of a defined function. -/
def called (name : String) : Run Unit := ⟨.ok (), [.called name]⟩

/-! ## Laws -/

@[ext] protected theorem ext {α : Type} {r s : Run α} (ho : r.outcome = s.outcome)
    (he : r.effects = s.effects) : r = s := by
  cases r; cases s; simp_all

instance : LawfulMonad Run := LawfulMonad.mk' Run
  (by rintro α ⟨_ | a, es⟩ <;> simp [Functor.map, Run.bind, Run.pure, after])
  (by intro α β a f; simp [Bind.bind, Pure.pure, Run.bind, Run.pure, after])
  (by
    rintro α β γ ⟨_ | a, es⟩ f g
    · rfl
    · rcases h : f a with ⟨_ | b, fs⟩ <;> simp [Bind.bind, Run.bind, after, h])

end Run

/-! ## Reading effects -/

/-- The events among effects. -/
def Effect.events (effects : List Effect) : List Event :=
  effects.filterMap fun e =>
    match e with
    | logged event => some event
    | called _ => none

@[simp] theorem Effect.events_append (xs ys : List Effect) :
    Effect.events (xs ++ ys) = Effect.events xs ++ Effect.events ys := by
  simp [Effect.events]

/-- How often each defined function was called, in the order of first calls. -/
def Effect.callCounts (effects : List Effect) : List (String × Nat) :=
  effects.foldl (fun counts e =>
    match e with
    | called name =>
      if counts.any (·.1 == name) then
        counts.map fun c => if c.1 == name then (c.1, c.2 + 1) else c
      else counts ++ [(name, 1)]
    | logged _ => counts) []

end Conformance
