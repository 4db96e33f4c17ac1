import Conformance.Proofs.Invariant.Trial

/-!
# Conformance.Proofs.Invariant.Trials

What the trials of an invariant can come to.

Each trial takes the next trial seed of the source, so the `j`-th trial is
that of `Twister.trialSeed j`, and after `k` trials the source is
`Twister.afterSeeds k`, whatever else was drawn meanwhile.  `Runner.Ended`
lists the ends of successive trials (`ended_trials`): a fault, a budget that
was spent on tuples of which the predicate holds, or a tuple that falsifies
it after such tuples.
-/

namespace Conformance

/-! ## Trial seeds -/

namespace Twister

/-- The source after so many trial seeds have been taken from it. -/
def afterSeeds (t : Twister) : Nat → Twister
  | 0 => t
  | count + 1 => afterSeeds (bits 64 t).2 count

/-- The `j`-th trial seed of a source, counted from 0. -/
def trialSeed (t : Twister) (j : Nat) : Nat := (bits 64 (t.afterSeeds j)).1

/-- The first trial seed is what the source hands out next. -/
theorem trialSeed_zero (t : Twister) : t.trialSeed 0 = (bits 64 t).1 := rfl

/-- The other trial seeds are those after the first. -/
theorem trialSeed_succ (t : Twister) (j : Nat) :
    t.trialSeed (j + 1) = (bits 64 t).2.trialSeed j := rfl

/-- Seeds are taken in two stretches as in one. -/
theorem afterSeeds_add (t : Twister) (j k : Nat) :
    t.afterSeeds (j + k) = (t.afterSeeds j).afterSeeds k := by
  induction j generalizing t with
  | zero => rw [Nat.zero_add, afterSeeds]
  | succ j ih => rw [Nat.succ_add, afterSeeds, afterSeeds, ih]

theorem trialSeed_afterSeeds (t : Twister) (j k : Nat) :
    (t.afterSeeds j).trialSeed k = t.trialSeed (j + k) := by
  rw [trialSeed, trialSeed, afterSeeds_add]

/-- The trial seeds are what successive draws of 64 bits yield. -/
theorem runFrom_times_bits (t : Twister) (count : Nat) :
    (Draw.times count (Draw.bits 64)).runFrom t =
      (.ok ((List.range count).map t.trialSeed), t.afterSeeds count) := by
  induction count generalizing t with
  | zero => rfl
  | succ count ih =>
    have hrest : (List.range count).map (bits 64 t).2.trialSeed =
        (List.range count).map (t.trialSeed ∘ Nat.succ) := by
      refine List.map_congr_left fun j _ => ?_
      show (t.afterSeeds 1).trialSeed j = t.trialSeed (j + 1)
      rw [trialSeed_afterSeeds, Nat.add_comm]
    rw [Draw.times, Draw.runFrom_bind_ok]
    refine ⟨(bits 64 t).1, (bits 64 t).2, rfl, ?_⟩
    rw [Draw.runFrom_bind_ok]
    refine ⟨_, _, ih (bits 64 t).2, ?_⟩
    rw [hrest, List.range_succ_eq_map, List.map_cons, List.map_map]
    rfl

end Twister

namespace Runner

variable {r : Runner} {i : Invariant} {values : List Value}

/-! ## Successive trials -/

/-- The tuples of the first trials from a source, all of which passed. -/
def Passed (r : Runner) (i : Invariant) (source : Twister) (tuples : List (List Value)) : Prop :=
  ∀ j values, tuples[j]? = some values →
    r.sampling.replay i.descriptors (source.trialSeed j) = .ok values ∧
      i.predicate.holds values = true

theorem passed_nil (source : Twister) : r.Passed i source [] := by
  intro j values h
  simp at h

/-- A tuple that passed goes before others that did. -/
theorem Passed.cons {source : Twister} {tuples : List (List Value)}
    (hvalues : r.sampling.replay i.descriptors (source.trialSeed 0) = .ok values)
    (hp : i.predicate.holds values = true) (h : r.Passed i (source.afterSeeds 1) tuples) :
    r.Passed i source (values :: tuples) := by
  intro j other hj
  cases j with
  | zero =>
    obtain rfl : values = other := by simpa using hj
    exact ⟨hvalues, hp⟩
  | succ j =>
    obtain ⟨hother, hholds⟩ := h j other (by simpa using hj)
    rw [Twister.trialSeed_afterSeeds, Nat.add_comm] at hother
    exact ⟨hother, hholds⟩

/-- How successive trials end, and the source that they leave behind. -/
inductive Ended (r : Runner) (i : Invariant) (left index : Nat) (source : Twister) :
    Run (Option (CounterExample Error)) × Twister → Prop
  | fault {told source' fault} (h : told.outcome = .error fault) :
    Ended r i left index source (told, source')
  | held {tuples} (hlength : tuples.length = left) (hpassed : r.Passed i source tuples) :
    Ended r i left index source
      (⟨.ok none, i.predicate.calls tuples⟩, source.afterSeeds tuples.length)
  | falsified {tuples} {values : List Value} {cause blame} (hlength : tuples.length < left)
    (hpassed : r.Passed i source tuples)
    (hvalues : r.sampling.replay i.descriptors (source.trialSeed tuples.length) = .ok values)
    (hcause : i.predicate.Falsified values cause)
    (hblame : (r.blame i values (source.trialSeed tuples.length) cause).outcome = .ok blame) :
    Ended r i left index source
      (⟨.ok (some (counterExample i values (index + tuples.length)
          (source.trialSeed tuples.length) cause blame)),
        i.predicate.calls (tuples ++ [values]) ++
          (r.blame i values (source.trialSeed tuples.length) cause).effects⟩,
        source.afterSeeds (tuples.length + 1))

/-- A trial that passes goes before the others. -/
theorem Ended.cons {left index : Nat} {source : Twister}
    {ended : Run (Option (CounterExample Error)) × Twister}
    (hvalues : r.sampling.replay i.descriptors (source.trialSeed 0) = .ok values)
    (hp : i.predicate.holds values = true)
    (h : r.Ended i left (index + 1) (source.afterSeeds 1) ended) :
    r.Ended i (left + 1) index source
      (Run.after (i.predicate values).effects ended.1, ended.2) := by
  cases h with
  | fault h => exact .fault h
  | @held tuples hlength hpassed =>
    rw [← Twister.afterSeeds_add, Nat.add_comm 1 tuples.length]
    exact .held (by rw [List.length_cons, hlength]) (hpassed.cons hvalues hp)
  | @falsified tuples last cause blame hlength hpassed hlast hcause hblame =>
    have hseed : (source.afterSeeds 1).trialSeed tuples.length =
        source.trialSeed (values :: tuples).length := by
      rw [Twister.trialSeed_afterSeeds, List.length_cons, Nat.add_comm]
    have hindex : index + 1 + tuples.length = index + (values :: tuples).length := by
      rw [List.length_cons]
      omega
    have hcalls : (i.predicate values).effects ++ (i.predicate.calls (tuples ++ [last]) ++
        (r.blame i last (source.trialSeed (values :: tuples).length) cause).effects) =
        i.predicate.calls ((values :: tuples) ++ [last]) ++
          (r.blame i last (source.trialSeed (values :: tuples).length) cause).effects := by
      rw [List.cons_append, Predicate.calls, Predicate.calls, List.flatMap_cons, List.append_assoc]
    rw [hseed] at hlast hblame ⊢
    rw [hindex, ← Twister.afterSeeds_add, Nat.add_comm 1, Run.after, hcalls]
    exact .falsified (Nat.succ_lt_succ hlength) (hpassed.cons hvalues hp) hlast hcause hblame

/-- One trial, and what follows it. -/
theorem trials_succ (r : Runner) (i : Invariant) (left index : Nat) (source : Twister) :
    r.trials i (left + 1) index source =
      match (r.trial i index (source.trialSeed 0)).outcome with
      | .ok none =>
        (Run.after (r.trial i index (source.trialSeed 0)).effects
          (r.trials i left (index + 1) (source.afterSeeds 1)).1,
          (r.trials i left (index + 1) (source.afterSeeds 1)).2)
      | _ => (r.trial i index (source.trialSeed 0), source.afterSeeds 1) := rfl

/-- Trials always end in one of these ways. -/
theorem ended_trials (r : Runner) (i : Invariant) (left index : Nat) (source : Twister) :
    r.Ended i left index source (r.trials i left index source) := by
  induction left generalizing index source with
  | zero => exact .held rfl (passed_nil source)
  | succ left ih =>
    have htried := r.tried_trial i index (source.trialSeed 0)
    rw [trials_succ]
    generalize r.trial i index (source.trialSeed 0) = told at htried
    cases htried with
    | fault h =>
      simp only [h]
      exact .fault h
    | held hvalues hp => exact (ih (index + 1) (source.afterSeeds 1)).cons hvalues hp
    | @falsified values cause blame hvalues hcause hblame =>
      have hcalls : i.predicate.calls ([] ++ [values]) = (i.predicate values).effects := by
        simp [Predicate.calls]
      rw [← hcalls]
      exact .falsified (Nat.succ_pos left) (passed_nil source) hvalues hcause hblame

/-- Trials have a fault only if a draw is given up or the predicate ends them. -/
theorem trials_error (hi : i.Tellable) (hf : ∀ d ∈ i.descriptors, ¬ d.HasFunction)
    {left index : Nat} {source : Twister} {fault : Fault}
    (h : (r.trials i left index source).1.outcome = .error fault) :
    i.predicate.EndsWith fault := by
  induction left generalizing index source with
  | zero => cases h
  | succ left ih =>
    rw [trials_succ] at h
    split at h
    · exact ih h
    · exact trial_error hi hf h

/-- Trials that are settled come to their end. -/
theorem exists_trials_of_settled (hi : i.Ordinary) {left index : Nat} {source : Twister}
    (h : ∀ j < left, r.Settled i (source.trialSeed j)) :
    ∃ found, (r.trials i left index source).1.outcome = .ok found := by
  induction left generalizing index source with
  | zero => exact ⟨none, rfl⟩
  | succ left ih =>
    rw [trials_succ]
    split
    · refine ih fun j hj => ?_
      rw [Twister.trialSeed_afterSeeds, Nat.add_comm]
      exact h (j + 1) (Nat.succ_lt_succ hj)
    · exact exists_trial_of_settled hi (h 0 (Nat.succ_pos left))

/-- Trials that come to an end before the budget is spent do not depend on it. -/
theorem trials_of_le {left more index : Nat} {source : Twister} (hle : left ≤ more)
    (h : (r.trials i left index source).1.outcome ≠ .ok none) :
    r.trials i more index source = r.trials i left index source := by
  induction left generalizing more index source with
  | zero => exact absurd rfl h
  | succ left ih =>
    obtain ⟨more, rfl⟩ : ∃ k, more = k + 1 := ⟨more - 1, by omega⟩
    rw [trials_succ] at h
    rw [trials_succ, trials_succ]
    split
    · next hpassed =>
      simp only [hpassed] at h
      rw [ih (Nat.le_of_succ_le_succ hle) h]
    · rfl

end Runner

end Conformance
