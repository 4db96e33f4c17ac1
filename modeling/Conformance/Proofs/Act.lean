import Conformance.Act
import Conformance.Proofs.Run

/-!
# Conformance.Proofs.Act

Computations on a state, run.  A sequence goes on if its first computation
comes to a result (`Act.bind_of_ok`) and ends if it does not
(`Act.bind_of_error`); the lemmas on first steps take off those that are
known, such as reading the state.
-/

namespace Conformance.Act

variable {σ α β : Type}

/-- A sequence goes on with the result and the state that its first part leaves. -/
theorem bind_apply (x : Act σ α) (f : α → Act σ β) (s : σ) :
    (x >>= f) s =
      match (x s).1.outcome with
      | .ok a => (Run.after (x s).1.effects (f a (x s).2).1, (f a (x s).2).2)
      | .error fault => (⟨.error fault, (x s).1.effects⟩, (x s).2) := rfl

/-- After a result the second part is run from the state left behind. -/
theorem bind_of_ok {x : Act σ α} {s : σ} {a : α} (h : (x s).1.outcome = .ok a)
    (f : α → Act σ β) :
    (x >>= f) s = (Run.after (x s).1.effects (f a (x s).2).1, (f a (x s).2).2) := by
  rw [bind_apply, h]

/-- After a fault the second part is not run, and the state stays as it was left. -/
theorem bind_of_error {x : Act σ α} {s : σ} {fault : Fault}
    (h : (x s).1.outcome = .error fault) (f : α → Act σ β) :
    (x >>= f) s = (⟨.error fault, (x s).1.effects⟩, (x s).2) := by
  rw [bind_apply, h]

/-! ## First steps -/

theorem get_bind (f : σ → Act σ β) (s : σ) : ((get : Act σ σ) >>= f) s = f s s := rfl

theorem modify_bind (g : σ → σ) (f : PUnit → Act σ β) (s : σ) :
    ((modify g : Act σ PUnit) >>= f) s = f ⟨⟩ (g s) := rfl

/-- A result that is known takes no step. -/
theorem ofExcept_ok_bind (a : α) (f : α → Act σ β) (s : σ) :
    (ofExcept (.ok a) >>= f) s = f a s := rfl

/-- An error that is known ends the computation where it stands. -/
theorem ofExcept_error_bind (e : Error) (f : α → Act σ β) (s : σ) :
    (ofExcept (.error e) >>= f) s = (Run.raise e, s) := rfl

theorem lift_apply (r : Run α) (s : σ) : (liftM r : Act σ α) s = (r, s) := rfl

/-- What is held comes back as a run, be it a fault, and the computation goes on. -/
theorem hold_bind (x : Act σ α) (f : Run α → Act σ β) (s : σ) :
    (hold x >>= f) s = f (x s).1 (x s).2 := rfl

/-- Effects that are emitted come before those of what follows. -/
theorem emit_bind (effects : List Effect) (f : Unit → Act σ β) (s : σ) :
    ((liftM (Run.emit effects) : Act σ Unit) >>= f) s =
      (Run.after effects (f () s).1, (f () s).2) := rfl

/-! ## Last steps -/

/-- What becomes of the result alone does not show in the state. -/
theorem bind_pure_apply (x : Act σ α) (f : α → β) (s : σ) :
    (x >>= fun a => pure (f a)) s = ((x s).1 >>= fun a => pure (f a), (x s).2) := by
  rcases h : (x s).1.outcome with fault | a
  · rw [bind_of_error h, Run.bind_of_error h]
  · rw [bind_of_ok h, Run.bind_of_ok h]
    rfl

end Conformance.Act
