import Conformance.Proofs.Generate.PointUpdate
import Conformance.Proofs.Run

/-!
# Conformance.Proofs.Invariant.Search

The search for the part to blame, as the sequence of redraws it makes.

A redraw of a leaf is a draw like any other (`Leaf.redraw`), so the redraws
of a search follow each other on one source.  `Leaf.Rejected` says that some
redraws of one leaf were all rejected, `Leaf.AllRejected` that this went on
leaf by leaf.  The search then reports

* no part exactly after all redraws of all leaves were rejected
  (`allRejected_of_firstToHold`);
* a leaf only after all redraws of the leaves before it were rejected, and
  with a redraw of the leaf itself that the predicate holds of
  (`found_of_firstToHold`).
-/

namespace Conformance

/-! ## Predicates -/

/-- Whether a predicate yields a value that counts as true. -/
def Predicate.holds (p : Predicate) (values : List Value) : Bool :=
  match (p values).outcome with
  | .ok v => v.truthy
  | .error _ => false

/-- An error that counts as a failure of what was run.  The place of a value
that does not conform is a path of names and integers. -/
def Fault.IsFailure : Fault → Prop
  | raised e _ => e.isOrdinary ∧
    ∀ m, e.mismatch? = some m → m.path.all Segment.isNameOrInteger
  | unfinished => False

/-- A predicate that returns, or raises an error that counts as a failure. -/
def Predicate.IsOrdinary (p : Predicate) : Prop :=
  ∀ values fault, (p values).outcome = .error fault → fault.IsFailure

namespace Predicate

variable {p : Predicate}

/-- What is accepted is what holds. -/
theorem eq_holds_of_accepts {values : List Value} {b : Bool}
    (h : (p.accepts values).outcome = .ok b) : b = p.holds values := by
  unfold accepts at h
  unfold holds
  rcases hp : (p values).outcome with fault | v
  · simp only [hp] at h
    split at h
    · exact (Except.ok.inj h).symm
    · cases h
  · simp only [hp] at h
    exact (Except.ok.inj h).symm

/-- What holds is accepted. -/
theorem accepts_of_holds {values : List Value} (h : p.holds values = true) :
    (p.accepts values).outcome = .ok true := by
  unfold holds at h
  unfold accepts
  rcases hp : (p values).outcome with fault | v
  · rw [hp] at h
    cases h
  · simp only [hp] at h ⊢
    exact congrArg Except.ok h

/-- A fault that ends what calls the predicate: a draw was given up, or the
predicate raised what is no failure. -/
def EndsWith (p : Predicate) (fault : Fault) : Prop :=
  fault = .unfinished ∨ ∃ values, (p values).outcome = .error fault ∧ ¬ fault.isOrdinary

/-- What ends a search is no failure of the predicate. -/
theorem EndsWith.not_isOrdinary {fault : Fault} (h : p.EndsWith fault) : ¬ fault.isOrdinary := by
  rcases h with rfl | ⟨values, -, hfault⟩
  · exact Bool.false_ne_true
  · exact hfault

/-- With an ordinary predicate only a draw that is given up ends it. -/
theorem IsOrdinary.eq_unfinished (hp : p.IsOrdinary) {fault : Fault} (h : p.EndsWith fault) :
    fault = .unfinished := by
  rcases h with rfl | ⟨values, hvalues, hfault⟩
  · rfl
  · have hfailure := hp values fault hvalues
    cases fault with
    | unfinished => rfl
    | raised e ticket => exact absurd hfailure.1 hfault

/-- What keeps a predicate from its word ends the search. -/
theorem endsWith_of_accepts {values : List Value} {fault : Fault}
    (h : (p.accepts values).outcome = .error fault) : p.EndsWith fault := by
  unfold accepts at h
  rcases hp : (p values).outcome with fault' | v
  · simp only [hp] at h
    split at h
    · cases h
    · next hfault =>
      obtain rfl : fault' = fault := Except.error.inj h
      exact .inr ⟨values, hp, hfault⟩
  · simp only [hp] at h
    cases h

end Predicate

/-! ## Redraws -/

namespace Leaf

/-- A redraw: the tuple with the part at the leaf drawn anew. -/
def redraw (s : Sampling) (values : List Value) (leaf : Leaf) : Draw (List Value) := do
  let v ← leaf.descriptor.generateAt s leaf.path leaf.value
  pure (values.set leaf.argument v)

/-- The next `count` redraws of a leaf were all rejected. -/
def Rejected (s : Sampling) (p : Predicate) (values : List Value) (leaf : Leaf) (count : Nat)
    (t t' : Twister) : Prop :=
  ∃ tuples, (Draw.times count (leaf.redraw s values)).runFrom t = (.ok tuples, t') ∧
    ∀ tuple ∈ tuples, p.holds tuple = false

/-- The next redraws were all rejected, so many of each leaf in turn. -/
def AllRejected (s : Sampling) (p : Predicate) (values : List Value) (attempts : Nat) :
    List Leaf → (t t' : Twister) → Prop
  | [], t, t' => t = t'
  | leaf :: leaves, t, t' =>
    ∃ t₁, leaf.Rejected s p values attempts t t₁ ∧ AllRejected s p values attempts leaves t₁ t'

/-- The next redraw of a leaf makes the predicate hold. -/
def Found (s : Sampling) (p : Predicate) (values : List Value) (leaf : Leaf)
    (t t' : Twister) : Prop :=
  ∃ tuple, (leaf.redraw s values).runFrom t = (.ok tuple, t') ∧ p.holds tuple = true

section

variable {s : Sampling} {p : Predicate} {values : List Value} {leaf : Leaf} {t t' : Twister}

theorem rejected_zero : leaf.Rejected s p values 0 t t :=
  ⟨[], rfl, fun _ h => absurd h List.not_mem_nil⟩

/-- One more redraw that is rejected goes before the others. -/
theorem Rejected.succ {tuple : List Value} {t₁ : Twister} {count : Nat}
    (h : (leaf.redraw s values).runFrom t = (.ok tuple, t₁)) (hp : p.holds tuple = false)
    (hrest : leaf.Rejected s p values count t₁ t') :
    leaf.Rejected s p values (count + 1) t t' := by
  obtain ⟨tuples, htuples, hall⟩ := hrest
  refine ⟨tuple :: tuples, ?_, ?_⟩
  · simp only [Draw.times, Draw.runFrom_bind_ok]
    exact ⟨tuple, t₁, h, tuples, t', htuples, rfl⟩
  · intro other hmem
    rcases List.mem_cons.mp hmem with rfl | hmem
    · exact hp
    · exact hall other hmem

/-- One round of the search: a redraw, and the word of the predicate on it. -/
theorem redrawHolds_succ_ok {attempts : Nat} {b : Bool}
    (h : (leaf.redrawHolds s p values (attempts + 1) t).outcome = .ok (b, t')) :
    ∃ tuple t₁, (leaf.redraw s values).runFrom t = (.ok tuple, t₁) ∧
      (p.holds tuple = true ∧ b = true ∧ t₁ = t' ∨
        p.holds tuple = false ∧ (leaf.redrawHolds s p values attempts t₁).outcome = .ok (b, t')) := by
  rw [redrawHolds, Search.outcome_bind_ok] at h
  obtain ⟨v, t₁, hv, h⟩ := h
  obtain ⟨accepted, t₂, haccepted, h⟩ := Search.outcome_bind_ok.mp h
  obtain ⟨haccepts, rfl⟩ := Search.outcome_lift_ok.mp haccepted
  have hholds := Predicate.eq_holds_of_accepts haccepts
  refine ⟨values.set leaf.argument v, t₁, ?_, ?_⟩
  · rw [redraw, Draw.runFrom_bind_ok]
    exact ⟨v, t₁, Search.outcome_draw_ok.mp hv, rfl⟩
  · cases accepted with
    | true =>
      obtain ⟨rfl, rfl⟩ : true = b ∧ t₁ = t' := by simpa using h
      exact .inl ⟨hholds.symm, rfl, rfl⟩
    | false => exact .inr ⟨hholds.symm, h⟩

/-- If no redraw made the predicate hold, all were rejected. -/
theorem rejected_of_redrawHolds {attempts : Nat}
    (h : (leaf.redrawHolds s p values attempts t).outcome = .ok (false, t')) :
    leaf.Rejected s p values attempts t t' := by
  induction attempts generalizing t with
  | zero =>
    obtain rfl : t = t' := by simpa [redrawHolds] using h
    exact rejected_zero
  | succ attempts ih =>
    obtain ⟨tuple, t₁, htuple, ⟨-, hb, -⟩ | ⟨hp, hrest⟩⟩ := redrawHolds_succ_ok h
    · cases hb
    · exact (ih hrest).succ htuple hp

/-- If a redraw made the predicate hold, those before it were rejected. -/
theorem found_of_redrawHolds {attempts : Nat}
    (h : (leaf.redrawHolds s p values attempts t).outcome = .ok (true, t')) :
    ∃ k < attempts, ∃ t₁, leaf.Rejected s p values k t t₁ ∧ leaf.Found s p values t₁ t' := by
  induction attempts generalizing t with
  | zero => simp [redrawHolds] at h
  | succ attempts ih =>
    obtain ⟨tuple, t₁, htuple, ⟨hp, -, rfl⟩ | ⟨hp, hrest⟩⟩ := redrawHolds_succ_ok h
    · exact ⟨0, Nat.succ_pos attempts, t, rejected_zero, tuple, htuple, hp⟩
    · obtain ⟨k, hk, t₂, hrejected, hfound⟩ := ih hrest
      exact ⟨k + 1, Nat.succ_lt_succ hk, t₂, hrejected.succ htuple hp, hfound⟩

/-- If the first redraw makes the predicate hold, the others are not made. -/
theorem redrawHolds_of_found {attempts : Nat} (h : leaf.Found s p values t t') :
    (leaf.redrawHolds s p values (attempts + 1) t).outcome = .ok (true, t') := by
  obtain ⟨tuple, hredraw, hp⟩ := h
  rw [redraw, Draw.runFrom_bind_ok] at hredraw
  obtain ⟨v, t₁, hv, hrest⟩ := hredraw
  obtain ⟨rfl, rfl⟩ : values.set leaf.argument v = tuple ∧ t₁ = t' := by simpa using hrest
  rw [redrawHolds, Search.outcome_bind_ok]
  refine ⟨v, t₁, Search.outcome_draw_ok.mpr hv, Search.outcome_bind_ok.mpr ⟨true, t₁, ?_, rfl⟩⟩
  exact Search.outcome_lift_ok.mpr ⟨Predicate.accepts_of_holds hp, rfl⟩

/-! ## The search -/

/-- One leaf of the search. -/
theorem firstToHold_cons_ok {attempts : Nat} {leaves : List Leaf} {found : Option Blame}
    (h : (firstToHold s attempts p values (leaf :: leaves) t).outcome = .ok (found, t')) :
    (leaf.redrawHolds s p values attempts t).outcome = .ok (true, t') ∧
        found = some (leaf.argument, leaf.path) ∨
      ∃ t₁, (leaf.redrawHolds s p values attempts t).outcome = .ok (false, t₁) ∧
        (firstToHold s attempts p values leaves t₁).outcome = .ok (found, t') := by
  rw [firstToHold, Search.outcome_bind_ok] at h
  obtain ⟨held, t₁, hheld, h⟩ := h
  cases held with
  | true =>
    obtain ⟨rfl, rfl⟩ : some (leaf.argument, leaf.path) = found ∧ t₁ = t' := by simpa using h
    exact .inl ⟨hheld, rfl⟩
  | false => exact .inr ⟨t₁, hheld, h⟩

/-- The search ends at once if the first redraw of the first leaf makes the
predicate hold. -/
theorem firstToHold_of_found {attempts : Nat} {leaves : List Leaf}
    (h : leaf.Found s p values t t') :
    (firstToHold s (attempts + 1) p values (leaf :: leaves) t).outcome =
      .ok (some (leaf.argument, leaf.path), t') := by
  rw [firstToHold, Search.outcome_bind_ok]
  exact ⟨true, t', redrawHolds_of_found h, rfl⟩

/-- A search that reports nothing has had every redraw rejected. -/
theorem allRejected_of_firstToHold {attempts : Nat} {leaves : List Leaf}
    (h : (firstToHold s attempts p values leaves t).outcome = .ok (none, t')) :
    AllRejected s p values attempts leaves t t' := by
  induction leaves generalizing t with
  | nil =>
    obtain rfl : t = t' := by simpa [firstToHold] using h
    rfl
  | cons leaf leaves ih =>
    rcases firstToHold_cons_ok h with ⟨-, hfound⟩ | ⟨t₁, hheld, hrest⟩
    · cases hfound
    · exact ⟨t₁, rejected_of_redrawHolds hheld, ih hrest⟩

/-- A search that reports a leaf has had every redraw rejected of the leaves
before it, and some of its own, before one made the predicate hold. -/
theorem found_of_firstToHold {attempts : Nat} {leaves : List Leaf} {blame : Blame}
    (h : (firstToHold s attempts p values leaves t).outcome = .ok (some blame, t')) :
    ∃ before leaf after, leaves = before ++ leaf :: after ∧
      blame = (leaf.argument, leaf.path) ∧
      ∃ t₁, AllRejected s p values attempts before t t₁ ∧
        ∃ k < attempts, ∃ t₂, leaf.Rejected s p values k t₁ t₂ ∧ leaf.Found s p values t₂ t' := by
  induction leaves generalizing t with
  | nil => simp [firstToHold] at h
  | cons leaf leaves ih =>
    rcases firstToHold_cons_ok h with ⟨hheld, hfound⟩ | ⟨t₁, hheld, hrest⟩
    · exact ⟨[], leaf, leaves, rfl, Option.some.inj hfound, t, rfl, found_of_redrawHolds hheld⟩
    · obtain ⟨before, other, after, rfl, hblame, t₂, hbefore, hother⟩ := ih hrest
      exact ⟨leaf :: before, other, after, rfl, hblame, t₂,
        ⟨t₁, rejected_of_redrawHolds hheld, hbefore⟩, hother⟩

/-! ## Faults of the search -/

/-- The redraws of a leaf end early only with a draw that is given up, or with the predicate. -/
theorem redrawHolds_error (hdraw : (leaf.redraw s values).OnlyGivesUp) {attempts : Nat}
    {fault : Fault} (h : (leaf.redrawHolds s p values attempts t).outcome = .error fault) :
    p.EndsWith fault := by
  induction attempts generalizing t with
  | zero => simp [redrawHolds] at h
  | succ attempts ih =>
    rw [redrawHolds, Search.outcome_bind_error] at h
    rcases h with h | ⟨v, t₁, hv, h⟩
    · obtain ⟨t₂, ht₂⟩ := Search.outcome_draw_error.mp h
      refine .inl (hdraw t fault t₂ ?_)
      rw [redraw, Draw.runFrom_bind_error]
      exact .inl ht₂
    · rcases Search.outcome_bind_error.mp h with h | ⟨accepted, t₂, haccepted, h⟩
      · exact Predicate.endsWith_of_accepts (Search.outcome_lift_error.mp h)
      · cases accepted with
        | true => simp at h
        | false => exact ih h

/-- A search ends without a result only if a redraw has been given up or the
predicate has ended it. -/
theorem firstToHold_error {leaves : List Leaf}
    (hdraw : ∀ leaf ∈ leaves, (leaf.redraw s values).OnlyGivesUp) {attempts : Nat} {fault : Fault}
    (h : (firstToHold s attempts p values leaves t).outcome = .error fault) :
    p.EndsWith fault := by
  induction leaves generalizing t with
  | nil => simp [firstToHold] at h
  | cons leaf leaves ih =>
    rw [firstToHold, Search.outcome_bind_error] at h
    rcases h with h | ⟨held, t₁, -, h⟩
    · exact redrawHolds_error (hdraw leaf List.mem_cons_self) h
    · cases held with
      | true => simp at h
      | false => exact ih (fun other hmem => hdraw other (List.mem_cons_of_mem leaf hmem)) h

end

end Leaf

end Conformance
