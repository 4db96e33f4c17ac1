import Conformance.Run

/-!
# Conformance.Act

Computations on a state.  An `Act` leaves traces like a `Run` and changes a
state on the way; what it has done to the state stays done when it ends with
a fault.
-/

namespace Conformance

/-- A computation on a state. -/
def Act (σ α : Type) := σ → Run α × σ

namespace Act

variable {σ α β : Type}

protected def pure (a : α) : Act σ α := fun s => (Run.pure a, s)

/-- One computation after another; a fault of the first leaves out the second. -/
protected def bind (x : Act σ α) (f : α → Act σ β) : Act σ β := fun s =>
  let (r, s) := x s
  match r.outcome with
  | .ok a =>
    let (t, s) := f a s
    (Run.after r.effects t, s)
  | .error fault => (⟨.error fault, r.effects⟩, s)

instance : Monad (Act σ) where
  pure := Act.pure
  bind := Act.bind

instance : MonadExcept Fault (Act σ) where
  throw fault := fun s => (throw fault, s)
  tryCatch x handle := fun s =>
    let (r, s) := x s
    match r.outcome with
    | .ok _ => (r, s)
    | .error fault =>
      let (t, s) := handle fault s
      (Run.after r.effects t, s)

instance : MonadStateOf σ (Act σ) where
  get := fun s => (Run.pure s, s)
  set s := fun _ => (Run.pure (), s)
  modifyGet f := fun s => let (a, s) := f s; (Run.pure a, s)

instance : MonadLift Run (Act σ) where
  monadLift r := fun s => (r, s)

/-- A result that may be an error. -/
def ofExcept (e : Except Error α) : Act σ α := fun s => (Run.ofExcept e, s)

/-- Raises an error for the first time. -/
def raise (e : Error) : Act σ α := fun s => (Run.raise e, s)

/-- A computation on a part of the state. -/
def on {τ : Type} (part : σ → τ) (put : τ → σ → σ) (x : Act τ α) : Act σ α := fun s =>
  let (r, t) := x (part s)
  (r, put t s)

/-- A computation with its outcome and effects held back. -/
def hold (x : Act σ α) : Act σ (Run α) := fun s =>
  let (r, s) := x s
  (Run.pure r, s)

instance : LawfulMonad (Act σ) := LawfulMonad.mk' (Act σ)
  (by
    intro α x
    funext s
    simp only [Functor.map, Act.bind, Function.comp]
    rcases h : x s with ⟨⟨_ | a, es⟩, s'⟩ <;> simp [Act.pure, Run.pure, Run.after])
  (by intro α β a f; funext s; simp [Bind.bind, Pure.pure, Act.bind, Act.pure, Run.pure, Run.after])
  (by
    intro α β γ x f g
    funext s
    simp only [Bind.bind, Act.bind]
    rcases h : x s with ⟨⟨_ | a, es⟩, s'⟩
    · rfl
    · rcases hf : f a s' with ⟨⟨_ | b, fs⟩, s''⟩ <;> simp [Run.after, hf])

end Act

end Conformance
