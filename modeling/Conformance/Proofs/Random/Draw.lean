import Conformance.Random.Draw

/-!
# Conformance.Proofs.Random.Draw

Draws taken apart.  A sequence of draws yields a value exactly if each of
them does, the second from the source that the first leaves behind
(`runFrom_bind_ok`), and it ends with a fault exactly if one of them does
(`runFrom_bind_error`).  Nothing else is needed to follow a draw.

The atoms:

* `lt_of_runFrom_below` — a number below `n` is below `n`;
* `mem_range_of_runFrom_between` — a number of a range lies in it;
* `mem_of_runFrom_choose` — a choice is one of the choices;

`OnlyGivesUp` says of a draw that it raises nothing: if it yields no value,
then it has been given up.
-/

namespace Conformance.Draw

variable {α β : Type} {t t' : Twister}

/-! ## Sequences of draws -/

@[simp] theorem runFrom_pure (a : α) (t : Twister) :
    (pure a : Draw α).runFrom t = (.ok a, t) := rfl

@[simp] theorem runFrom_throw (fault : Fault) (t : Twister) :
    (throw fault : Draw α).runFrom t = (.error fault, t) := rfl

/-- A sequence of draws goes on from where the first one left the source. -/
theorem runFrom_bind (x : Draw α) (f : α → Draw β) (t : Twister) :
    (x >>= f).runFrom t =
      match x.runFrom t with
      | (.ok a, t') => (f a).runFrom t'
      | (.error fault, t') => (.error fault, t') := by
  unfold runFrom
  rw [ExceptT.run_bind, StateT.run_bind]
  rcases x.run.run t with ⟨_ | a, t'⟩
  · rfl
  · rfl

/-- A sequence yields a value exactly if both draws do. -/
theorem runFrom_bind_ok {x : Draw α} {f : α → Draw β} {b : β} :
    (x >>= f).runFrom t = (.ok b, t') ↔
      ∃ a t₁, x.runFrom t = (.ok a, t₁) ∧ (f a).runFrom t₁ = (.ok b, t') := by
  rw [runFrom_bind]
  rcases x.runFrom t with ⟨_ | a, t₁⟩
  · simp
  · constructor
    · intro h
      exact ⟨a, t₁, rfl, h⟩
    · rintro ⟨_, _, ⟨⟩, h⟩
      exact h

/-- A sequence ends with a fault exactly if one of its draws does. -/
theorem runFrom_bind_error {x : Draw α} {f : α → Draw β} {fault : Fault} :
    (x >>= f).runFrom t = (.error fault, t') ↔
      x.runFrom t = (.error fault, t') ∨
        ∃ a t₁, x.runFrom t = (.ok a, t₁) ∧ (f a).runFrom t₁ = (.error fault, t') := by
  rw [runFrom_bind]
  rcases x.runFrom t with ⟨_ | a, t₁⟩
  · simp
  · constructor
    · intro h
      exact .inr ⟨a, t₁, rfl, h⟩
    · rintro (⟨⟨⟩⟩ | ⟨_, _, ⟨⟩, h⟩)
      exact h

/-! ## The atoms -/

/-- However many tries are left, a number that is accepted is below the bound. -/
theorem lt_of_runFrom_belowWithin {n k r : Nat} (tries : Nat)
    (h : (belowWithin n k tries).runFrom t = (.ok r, t')) : r < n := by
  induction tries generalizing t with
  | zero => simp [belowWithin] at h
  | succ tries ih =>
    simp only [belowWithin, runFrom_bind_ok] at h
    obtain ⟨q, t₁, -, h⟩ := h
    split at h
    · next hq =>
      obtain ⟨rfl, -⟩ : q = r ∧ t₁ = t' := by simpa using h
      exact hq
    · exact ih h

theorem lt_of_runFrom_below {patience n r : Nat}
    (h : (below patience n).runFrom t = (.ok r, t')) : r < n :=
  lt_of_runFrom_belowWithin (patience + 1) h

/-- A number drawn from a range is in it, both ends included. -/
theorem mem_range_of_runFrom_between {patience : Nat} {low high i : Int}
    (h : (between patience low high).runFrom t = (.ok i, t')) : low ≤ i ∧ i ≤ high := by
  simp only [between, runFrom_bind_ok] at h
  obtain ⟨r, t₁, hr, h⟩ := h
  obtain ⟨rfl, -⟩ : low + r = i ∧ t₁ = t' := by simpa using h
  have hlt := lt_of_runFrom_below hr
  omega

/-- One of several is chosen, and nothing else. -/
theorem mem_of_runFrom_choose {patience : Nat} {xs : List α} {x : α}
    (h : (choose patience xs).runFrom t = (.ok x, t')) : x ∈ xs := by
  simp only [choose, runFrom_bind_ok] at h
  obtain ⟨i, t₁, -, h⟩ := h
  split at h
  · next y hy =>
    obtain ⟨rfl, -⟩ : y = x ∧ t₁ = t' := by simpa using h
    exact List.mem_of_getElem? hy
  · simp at h

/-! ## Repeated draws -/

/-- As many values are drawn as are asked for. -/
theorem length_of_runFrom_times {d : Draw α} {xs : List α} (count : Nat)
    (h : (times count d).runFrom t = (.ok xs, t')) : xs.length = count := by
  induction count generalizing t t' xs with
  | zero =>
    obtain ⟨rfl, -⟩ : [] = xs ∧ t = t' := by simpa [times] using h
    rfl
  | succ count ih =>
    simp only [times, runFrom_bind_ok] at h
    obtain ⟨x, t₁, -, ys, t₂, hys, h⟩ := h
    obtain ⟨rfl, -⟩ : x :: ys = xs ∧ t₂ = t' := by simpa using h
    rw [List.length_cons, ih hys]

/-- Each of several draws starts from the source that those before it leave behind. -/
theorem forall_of_runFrom_times {d : Draw α} {P : α → Prop} {xs : List α} (count : Nat)
    (hd : ∀ k < count, ∀ ys t₁, (times k d).runFrom t = (.ok ys, t₁) →
      ∀ x t₂, d.runFrom t₁ = (.ok x, t₂) → P x)
    (h : (times count d).runFrom t = (.ok xs, t')) : ∀ x ∈ xs, P x := by
  induction count generalizing t t' xs with
  | zero =>
    obtain ⟨rfl, -⟩ : [] = xs ∧ t = t' := by simpa [times] using h
    simp
  | succ count ih =>
    simp only [times, runFrom_bind_ok] at h
    obtain ⟨x, t₁, hx, ys, t₂, hys, h⟩ := h
    obtain ⟨rfl, -⟩ : x :: ys = xs ∧ t₂ = t' := by simpa using h
    have hhead : P x := hd 0 (Nat.succ_pos count) [] t rfl x t₁ hx
    have htail : ∀ y ∈ ys, P y := by
      refine ih (fun k hk zs t₃ hzs => ?_) hys
      refine hd (k + 1) (Nat.succ_lt_succ hk) (x :: zs) t₃ ?_
      simp only [times, runFrom_bind_ok]
      exact ⟨x, t₁, hx, zs, t₃, hzs, rfl⟩
    intro y hy
    rcases List.mem_cons.mp hy with rfl | hy
    · exact hhead
    · exact htail y hy

/-! ## Faults -/

/-- A draw that raises no error: it yields a value or is given up. -/
def OnlyGivesUp (d : Draw α) : Prop :=
  ∀ t fault t', d.runFrom t = (.error fault, t') → fault = .unfinished

theorem onlyGivesUp_pure (a : α) : OnlyGivesUp (pure a : Draw α) := by
  intro t fault t' h
  simp at h

theorem onlyGivesUp_throw : OnlyGivesUp (throw .unfinished : Draw α) := by
  intro t fault t' h
  obtain ⟨rfl, -⟩ : Fault.unfinished = fault ∧ t = t' := by simpa using h
  rfl

/-- Draws that raise nothing can be put in a row. -/
theorem OnlyGivesUp.bind {x : Draw α} {f : α → Draw β} (hx : OnlyGivesUp x)
    (hf : ∀ a, OnlyGivesUp (f a)) : OnlyGivesUp (x >>= f) := by
  intro t fault t' h
  rcases runFrom_bind_error.mp h with h | ⟨a, t₁, -, h⟩
  · exact hx t fault t' h
  · exact hf a t₁ fault t' h

/-- An output is always there. -/
theorem onlyGivesUp_word : OnlyGivesUp word := by
  intro t fault t' h
  cases h

theorem onlyGivesUp_bits (k : Nat) : OnlyGivesUp (bits k) := by
  intro t fault t' h
  cases h

/-- Whatever the patience, a number is drawn or given up. -/
theorem onlyGivesUp_below (patience n : Nat) : OnlyGivesUp (below patience n) := by
  have within : ∀ k tries, OnlyGivesUp (belowWithin n k tries) := by
    intro k tries
    induction tries with
    | zero => exact onlyGivesUp_throw
    | succ tries ih =>
      refine (onlyGivesUp_bits k).bind fun r => ?_
      split
      · exact onlyGivesUp_pure r
      · exact ih
  exact within _ _

theorem onlyGivesUp_between (patience : Nat) (low high : Int) :
    OnlyGivesUp (between patience low high) :=
  (onlyGivesUp_below _ _).bind fun _ => onlyGivesUp_pure _

theorem onlyGivesUp_unit : OnlyGivesUp unit :=
  onlyGivesUp_word.bind fun _ => onlyGivesUp_word.bind fun _ => onlyGivesUp_pure _

theorem onlyGivesUp_uniform (low high : Float) : OnlyGivesUp (uniform low high) :=
  onlyGivesUp_unit.bind fun _ => onlyGivesUp_pure _

/-- Even from nothing there is no error but to give up. -/
theorem onlyGivesUp_choose (patience : Nat) (xs : List α) :
    OnlyGivesUp (choose patience xs) := by
  refine (onlyGivesUp_below _ _).bind fun i => ?_
  split
  · exact onlyGivesUp_pure _
  · exact onlyGivesUp_throw

/-- A draw that raises nothing can be repeated. -/
theorem OnlyGivesUp.times {d : Draw α} (hd : OnlyGivesUp d) (count : Nat) :
    OnlyGivesUp (times count d) := by
  induction count with
  | zero => exact onlyGivesUp_pure []
  | succ count ih => exact hd.bind fun _ => ih.bind fun _ => onlyGivesUp_pure _

/-- What comes of such a draw: a value, or it is given up. -/
theorem OnlyGivesUp.cases {d : Draw α} (hd : OnlyGivesUp d) (t : Twister) :
    (∃ a t', d.runFrom t = (.ok a, t')) ∨ ∃ t', d.runFrom t = (.error .unfinished, t') := by
  rcases h : d.runFrom t with ⟨fault | a, t'⟩
  · obtain rfl := hd t fault t' h
    exact .inr ⟨t', rfl⟩
  · exact .inl ⟨a, t', rfl⟩

end Conformance.Draw
