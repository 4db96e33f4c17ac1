import Conformance.Invariant.Blame

/-!
# Conformance.Proofs.Run

Runs and searches taken apart, as draws are: what a sequence comes to is
what its parts come to, and its effects are those of its parts in a row.
-/

namespace Conformance

/-- What is left of a result without its fault is the result. -/
theorem toOption_eq_some {α : Type} {x : Except Fault α} {a : α} :
    x.toOption = some a ↔ x = .ok a := by
  cases x with
  | error fault => exact ⟨nofun, nofun⟩
  | ok b => exact ⟨fun h => congrArg _ (Option.some.inj h), fun h => congrArg _ (Except.ok.inj h)⟩

/-- What passes a test was come to. -/
theorem exists_of_toOption {α : Type} {x : Except Fault α} {p : α → Bool}
    (h : x.toOption.any p = true) : ∃ a, x = .ok a ∧ p a = true := by
  obtain ⟨a, ha, hp⟩ := (Option.any_eq_true _ _).mp h
  exact ⟨a, toOption_eq_some.mp ha, hp⟩

namespace Run

variable {α β : Type}

@[simp] theorem outcome_pure (a : α) : (pure a : Run α).outcome = .ok a := rfl

@[simp] theorem outcome_throw (fault : Fault) : (throw fault : Run α).outcome = .error fault := rfl

@[simp] theorem outcome_after (effects : List Effect) (r : Run α) :
    (after effects r).outcome = r.outcome := rfl

@[simp] theorem effects_after (effects : List Effect) (r : Run α) :
    (after effects r).effects = effects ++ r.effects := rfl

/-- A run that comes to a result is followed by the next one, its effects before. -/
theorem bind_of_ok {r : Run α} {a : α} (h : r.outcome = .ok a) (f : α → Run β) :
    (r >>= f) = after r.effects (f a) := by
  show Run.bind r f = _
  rw [Run.bind, h]

/-- After a fault nothing is run. -/
theorem bind_of_error {r : Run α} {fault : Fault} (h : r.outcome = .error fault)
    (f : α → Run β) : (r >>= f) = ⟨.error fault, r.effects⟩ := by
  show Run.bind r f = _
  rw [Run.bind, h]

/-- What a sequence comes to is read off what its parts come to. -/
theorem outcome_bind (r : Run α) (f : α → Run β) :
    (r >>= f).outcome = r.outcome >>= fun a => (f a).outcome := by
  rcases h : r.outcome with fault | a
  · rw [bind_of_error h]
    rfl
  · rw [bind_of_ok h]
    rfl

/-- A sequence comes to a result exactly if both runs do. -/
theorem outcome_bind_ok {r : Run α} {f : α → Run β} {b : β} :
    (r >>= f).outcome = .ok b ↔ ∃ a, r.outcome = .ok a ∧ (f a).outcome = .ok b := by
  rcases h : r.outcome with fault | a
  · rw [bind_of_error h]
    simp
  · rw [bind_of_ok h]
    simp

/-- A sequence ends with a fault exactly if one of its runs does. -/
theorem outcome_bind_error {r : Run α} {f : α → Run β} {fault : Fault} :
    (r >>= f).outcome = .error fault ↔
      r.outcome = .error fault ∨ ∃ a, r.outcome = .ok a ∧ (f a).outcome = .error fault := by
  rcases h : r.outcome with fault' | a
  · rw [bind_of_error h]
    simp
  · rw [bind_of_ok h]
    simp

/-- No draw of a run was given up. -/
def Completes (r : Run α) : Prop := r.outcome ≠ .error .unfinished

instance : (r : Run α) → Decidable r.Completes
  | ⟨.ok _, _⟩ => isTrue nofun
  | ⟨.error (.raised ..), _⟩ => isTrue nofun
  | ⟨.error .unfinished, _⟩ => isFalse fun h => h rfl

end Run

namespace Search

variable {α β : Type} {t t' : Twister}

/-- A sequence of searches hands the source on. -/
theorem bind_apply (x : Search α) (f : α → Search β) (t : Twister) :
    (x >>= f) t = (x t >>= fun found => f found.1 found.2) := rfl

/-- A sequence of searches comes to a result exactly if both do. -/
theorem outcome_bind_ok {x : Search α} {f : α → Search β} {b : β} :
    ((x >>= f) t).outcome = .ok (b, t') ↔
      ∃ a t₁, (x t).outcome = .ok (a, t₁) ∧ (f a t₁).outcome = .ok (b, t') := by
  rw [bind_apply, Run.outcome_bind_ok]
  constructor
  · rintro ⟨⟨a, t₁⟩, ha, hb⟩
    exact ⟨a, t₁, ha, hb⟩
  · rintro ⟨a, t₁, ha, hb⟩
    exact ⟨(a, t₁), ha, hb⟩

/-- A sequence of searches ends with a fault exactly if one of them does. -/
theorem outcome_bind_error {x : Search α} {f : α → Search β} {fault : Fault} :
    ((x >>= f) t).outcome = .error fault ↔
      (x t).outcome = .error fault ∨
        ∃ a t₁, (x t).outcome = .ok (a, t₁) ∧ (f a t₁).outcome = .error fault := by
  rw [bind_apply, Run.outcome_bind_error]
  constructor
  · rintro (h | ⟨⟨a, t₁⟩, ha, hb⟩)
    · exact .inl h
    · exact .inr ⟨a, t₁, ha, hb⟩
  · rintro (h | ⟨a, t₁, ha, hb⟩)
    · exact .inl h
    · exact .inr ⟨(a, t₁), ha, hb⟩

@[simp] theorem pure_apply (a : α) (t : Twister) : (pure a : Search α) t = pure (a, t) := rfl

/-- A run within a search leaves the source alone. -/
theorem lift_apply (r : Run α) (t : Twister) :
    (liftM r : Search α) t = (r >>= fun a => pure (a, t)) := rfl

/-- A run inside a search leaves the source as it is. -/
theorem outcome_lift_ok {r : Run α} {a : α} :
    ((liftM r : Search α) t).outcome = .ok (a, t') ↔ r.outcome = .ok a ∧ t = t' := by
  rw [lift_apply, Run.outcome_bind_ok]
  constructor
  · rintro ⟨b, hb, h⟩
    obtain ⟨rfl, rfl⟩ : b = a ∧ t = t' := by simpa using h
    exact ⟨hb, rfl⟩
  · rintro ⟨ha, rfl⟩
    exact ⟨a, ha, rfl⟩

theorem outcome_lift_error {r : Run α} {fault : Fault} :
    ((liftM r : Search α) t).outcome = .error fault ↔ r.outcome = .error fault := by
  rw [lift_apply, Run.outcome_bind_error]
  simp

/-- A draw inside a search comes to what it comes to by itself. -/
theorem outcome_draw_ok {d : Draw α} {a : α} :
    ((draw d) t).outcome = .ok (a, t') ↔ d.runFrom t = (.ok a, t') := by
  unfold draw
  rcases d.runFrom t with ⟨fault | b, t₁⟩
  · simp
  · simp

/-- A draw inside a search fails with the faults of the draw, and only then. -/
theorem outcome_draw_error {d : Draw α} {fault : Fault} :
    ((draw d) t).outcome = .error fault ↔ ∃ t', d.runFrom t = (.error fault, t') := by
  unfold draw
  rcases d.runFrom t with ⟨fault' | b, t₁⟩
  · simp
  · simp

end Search

end Conformance
