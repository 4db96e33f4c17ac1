import Conformance.Proofs.Invariant.Coin

/-!
# Conformance.Proofs.Invariant.Blame

What it means that a part of a tuple is blamed.

If the predicate was merely false, a leaf is blamed only if there is a value
for it with which the predicate would have been true, all else in the tuple
as drawn, and after every redraw of the leaves before it was rejected: it is
a `Leaf.Culprit`.  If no leaf is blamed although they were searched, then
every redraw was rejected.

So a leaf is never blamed if no value for it changes the word of the
predicate (`Leaf.Irrelevant`).
-/

namespace Conformance

namespace Leaf

/-- A leaf of which there is good reason to blame it: every redraw of the
leaves before it was rejected, then some of its own, and then a value drawn
for the leaf, all else in the tuple as it was, makes the predicate hold. -/
inductive Culprit (s : Sampling) (p : Predicate) (ds : List Descriptor) (values : List Value)
    (attempts seed : Nat) (leaf : Leaf) : Prop
  | intro {before after e k w t₁ t₂ t₃} (hall : Leaf.all ds values = before ++ leaf :: after)
    (hd : ds[leaf.argument]? = some leaf.descriptor)
    (hv : values[leaf.argument]? = some leaf.value)
    (hbefore : AllRejected s p values attempts before (redrawSource seed) t₁)
    (hk : k < attempts) (hrejected : leaf.Rejected s p values k t₁ t₂)
    (he : (leaf.path, e) ∈ leaf.descriptor.leafPaths)
    (hw : (e.generate s).runFrom t₂ = (.ok w, t₃))
    (hholds : p.holds (values.set leaf.argument (leaf.value.put leaf.path w)) = true)

/-- No value that can be drawn for a leaf changes the word of the predicate. -/
def Irrelevant (s : Sampling) (p : Predicate) (values : List Value) (leaf : Leaf) : Prop :=
  ∀ e w t t', (leaf.path, e) ∈ leaf.descriptor.leafPaths →
    (e.generate s).runFrom t = (.ok w, t') →
    p.holds (values.set leaf.argument (leaf.value.put leaf.path w)) = p.holds values

variable {s : Sampling} {p : Predicate} {ds : List Descriptor} {values : List Value}
variable {attempts seed : Nat} {leaf : Leaf}

/-- A culprit is one of the leaves. -/
theorem Culprit.mem_all (h : leaf.Culprit s p ds values attempts seed) :
    leaf ∈ Leaf.all ds values := by
  obtain ⟨hall⟩ := h
  exact List.mem_iff_append.mpr ⟨_, _, hall⟩

/-- A leaf that the predicate does not depend on is no culprit. -/
theorem Culprit.not_irrelevant (h : leaf.Culprit s p ds values attempts seed)
    (hfalse : p.holds values = false) : ¬ leaf.Irrelevant s p values := by
  intro hirrelevant
  obtain ⟨-, -, -, -, -, -, he, hw, hholds⟩ := h
  rw [hirrelevant _ _ _ _ he hw, hfalse] at hholds
  cases hholds

/-- A leaf that the search reports is a culprit. -/
theorem culprit_of_firstToHold (hwf : ∀ d ∈ ds, d.WellFormed) {good : Float → Prop}
    (hvalues : List.Forall₂ (fun d v => d.Canonical s good v) ds values) {blame : Blame}
    {t' : Twister}
    (h : (firstToHold s attempts p values (Leaf.all ds values) (redrawSource seed)).outcome =
      .ok (some blame, t')) :
    ∃ leaf : Leaf, blame = (leaf.argument, leaf.path) ∧
      leaf.Culprit s p ds values attempts seed := by
  obtain ⟨before, leaf, after, hall, hblame, t₁, hbefore, k, hk, t₂, hrejected, tuple, htuple,
    hholds⟩ := found_of_firstToHold h
  have hleaf : leaf ∈ Leaf.all ds values :=
    List.mem_iff_append.mpr ⟨before, after, hall⟩
  obtain ⟨hd, hv, e, he⟩ := Leaf.mem_all.mp hleaf
  rw [redraw_eq (hwf _ (List.mem_of_getElem? hd)) he (canonical_of_mem_all hvalues hleaf),
    Draw.runFrom_bind_ok] at htuple
  obtain ⟨w, t₃, hw, hput⟩ := htuple
  obtain ⟨rfl, -⟩ : _ = tuple ∧ t₃ = t' := by simpa using hput
  exact ⟨leaf, hblame, .intro hall hd hv hbefore hk hrejected he hw hholds⟩

end Leaf

namespace Runner

/-- A counterexample without a cause blames no innocent part.

1. What it blames is a culprit among the leaves of its values.
2. If it blames nothing although the leaves were searched, every redraw of
   every leaf was rejected.
3. So a leaf whose value the word of the predicate does not depend on is not
   blamed. -/
theorem blame_not_innocent (r : Runner) (i : Invariant)
    (hwf : ∀ d ∈ i.descriptors, d.WellFormed) {report : Report} {c : CounterExample Error}
    (h : (check i r).1.outcome = .ok report) (hc : report.counterexample = some c)
    (hcause : c.cause = none) :
    (∀ a, c.argument = some a → r.checking.localizeFailures = true ∧
      ∃ leaf : Leaf, a = leaf.argument ∧ c.path = leaf.path ∧
        leaf.Culprit r.sampling i.predicate i.descriptors c.values
          r.checking.localizationAttempts c.trialSeed.toNat) ∧
    (c.argument = none → r.checking.localizeFailures = true →
      ∃ t', Leaf.AllRejected r.sampling i.predicate c.values r.checking.localizationAttempts
        (Leaf.all i.descriptors c.values) (redrawSource c.trialSeed.toNat) t') ∧
    ∀ leaf ∈ Leaf.all i.descriptors c.values,
      leaf.Irrelevant r.sampling i.predicate c.values →
      ¬ (c.argument = some (leaf.argument : Int) ∧ c.path = leaf.path) := by
  obtain ⟨hf, values, index, seed, cause, blame, rfl, hvalues, hfalsified, hblame⟩ :=
    exists_blame_of_check h hc
  obtain rfl : cause = none := hcause
  have hculprit : ∀ found, blame = some found → r.checking.localizeFailures = true ∧
      ∃ leaf : Leaf, found = (leaf.argument, leaf.path) ∧
        leaf.Culprit r.sampling i.predicate i.descriptors values
          r.checking.localizationAttempts seed := by
    rintro found rfl
    rcases localize_ok.mp hblame with ⟨-, hnone⟩ | ⟨hon, t', hsearch⟩
    · cases hnone
    · exact ⟨hon, Leaf.culprit_of_firstToHold hwf (Sampling.canonical_of_replay hf hvalues) hsearch⟩
  refine ⟨?_, ?_, ?_⟩
  · intro a ha
    cases blame with
    | none => cases ha
    | some found =>
      obtain ⟨hon, leaf, rfl, hleaf⟩ := hculprit found rfl
      exact ⟨hon, leaf, (Option.some.inj ha).symm, rfl, hleaf⟩
  · intro hnone hon
    cases blame with
    | some found => cases hnone
    | none =>
      rcases localize_ok.mp hblame with ⟨hoff, -⟩ | ⟨-, t', hsearch⟩
      · rw [hon] at hoff
        cases hoff
      · exact ⟨t', Leaf.allRejected_of_firstToHold hsearch⟩
  · rintro leaf hleaf hirrelevant ⟨ha, hpath⟩
    cases blame with
    | none => cases ha
    | some found =>
      obtain ⟨-, culprit, rfl, hguilty⟩ := hculprit found rfl
      have hargument : culprit.argument = leaf.argument := Int.ofNat.inj (Option.some.inj ha)
      rw [Leaf.eq_of_mem_all hguilty.mem_all hleaf hargument hpath] at hguilty
      exact hguilty.not_irrelevant hfalsified.not_holds hirrelevant

/-- That a coin shows heads. -/
def heads : Invariant := ⟨"heads", [.boolean none], .first, 1⟩

/-- No part is to blame where the predicate never holds; a coin is if it shows
tails, and heads when it is redrawn. -/
theorem blame_not_innocent_heads :
    (let r := ofSeed {} {} 0
    ∃ report c, (check never r).1.outcome = .ok report ∧ report.counterexample = some c ∧
      c.cause = none ∧ c.argument = none ∧
      ∃ t', Leaf.AllRejected {} never.predicate c.values 8 (Leaf.all never.descriptors c.values)
        (redrawSource c.trialSeed.toNat) t') ∧
    let r := ofSeed {} {} 2
    ∃ report c, (check heads r).1.outcome = .ok report ∧ report.counterexample = some c ∧
      c.cause = none ∧ c.argument = some 0 ∧ c.path = [] ∧
      ∃ leaf : Leaf, leaf.argument = 0 ∧ leaf.path = [] ∧
        leaf.Culprit {} .first heads.descriptors c.values 8 c.trialSeed.toNat := by
  refine ⟨?_, ?_⟩
  · have hfound : (check never (ofSeed {} {} 0)).1.outcome.toOption.any (fun report =>
        report.counterexample.any (·.cause.isNone)) = true := by
      decide +kernel
    obtain ⟨report, h, hany⟩ := exists_of_toOption hfound
    obtain ⟨c, hc, hcause⟩ := (Option.any_eq_true _ _).mp hany
    have hcause : c.cause = none := Option.isNone_iff_eq_none.mp hcause
    have hwf : ∀ d ∈ never.descriptors, d.WellFormed := by
      simp [never, Descriptor.WellFormed, Descriptor.NameWellFormed]
    obtain ⟨hsome, hnone, -⟩ := blame_not_innocent (ofSeed {} {} 0) never hwf h hc hcause
    have hargument : c.argument = none := by
      rw [Option.eq_none_iff_forall_ne_some]
      intro a ha
      obtain ⟨-, leaf, -, -, ⟨-, -, -, -, -, -, -, -, hholds⟩⟩ := hsome a ha
      cases hholds
    exact ⟨report, c, h, hc, hcause, hargument, hnone hargument rfl⟩
  · have hi : heads.Ordinary := by
      refine ⟨?_, Predicate.isOrdinary_first⟩
      simp [heads, Descriptor.WellFormed, Descriptor.NameWellFormed]
    obtain ⟨vs, h⟩ := check_coins_two hi rfl rfl (List.forall_mem_nil _) (by decide)
    obtain ⟨hsome, -⟩ := blame_not_innocent (ofSeed {} {} 2) heads hi.wellFormed h rfl rfl
    obtain ⟨-, leaf, hargument, hpath, hculprit⟩ := hsome 0 rfl
    exact ⟨_, _, h, rfl, rfl, rfl, rfl, leaf, (Int.ofNat.inj hargument).symm, hpath.symm, hculprit⟩

end Runner

end Conformance
