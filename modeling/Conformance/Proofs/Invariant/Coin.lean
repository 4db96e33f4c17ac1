import Conformance.Proofs.Invariant.Verdict
import Conformance.Proofs.Random.Packed

/-!
# Conformance.Proofs.Invariant.Coin

A coin that comes first in a tuple, and the predicate that takes its word.

Tails falsify the predicate without a cause (`Predicate.falsified_first`), and
a redraw of the coin that shows heads makes it hold.  So a check that draws
tails first reports that tuple, and if the first redraw shows heads, it blames
the coin (`Runner.check_tails`).

Coins are always drawn to their end (`Sampling.exists_replay_of_coinShows`),
and what a seed draws for the first of them can be computed (`coinShows`).
-/

namespace Conformance

/-! ## The word of the first argument -/

namespace Predicate

/-- Takes the word of the first argument. -/
def first : Predicate := fun values => pure (values.headD .nothing)

/-- To take the word of an argument never fails. -/
theorem isOrdinary_first : first.IsOrdinary := by
  intro values fault h
  cases h

/-- A first coin that shows tails falsifies the predicate without a cause. -/
theorem falsified_first (vs : List Value) : first.Falsified (.bool Bool.false :: vs) none :=
  .false rfl rfl

end Predicate

/-! ## Coins of a seed -/

/-- Whether the first coin that is drawn from a seed shows `b`. -/
def coinShows (seed : Int) (b : Bool) : Bool :=
  Twister.Packed.forced (Twister.Packed.ofSeed seed) fun n =>
    (Draw.unit.runFrom ⟨Twister.unpack n, 0⟩).1.toOption.any fun u => decide (u < 0.5) == b

section

variable {s : Sampling} {n : Option String} {ds : List Descriptor} {seed : Int} {b : Bool}

/-- What the first coin of a seed shows is what is drawn for a coin from there. -/
theorem runFrom_of_coinShows (h : coinShows seed b = true) :
    ∃ t', (Descriptor.generate s (.boolean n)).runFrom (Twister.ofSeed seed) =
      (.ok (.bool b), t') := by
  rw [coinShows, Twister.Packed.forced_eq, ← Twister.ready_ofSeed, Draw.reads_unit] at h
  obtain ⟨u, hu, hb⟩ := exists_of_toOption h
  rw [Descriptor.generate_eq_sample s (by simp [Descriptor.HasFunction]), Descriptor.sample]
  obtain rfl : decide (u < 0.5) = b := eq_of_beq hb
  exact ⟨_, Draw.runFrom_bind_ok.mpr ⟨u, _, Prod.ext hu rfl, rfl⟩⟩

/-- Coins are drawn to their end from wherever the source stands. -/
theorem Descriptor.exists_generateAll_coins (hcoins : ∀ d ∈ ds, ∃ n, d = .boolean n) (t : Twister) :
    ∃ values t', (generateAll s ds).runFrom t = (.ok values, t') := by
  induction ds generalizing t with
  | nil => exact ⟨[], t, rfl⟩
  | cons d ds ih =>
    obtain ⟨⟨n, rfl⟩, hrest⟩ := List.forall_mem_cons.mp hcoins
    obtain ⟨v, t₁, hv⟩ : ∃ v t₁, (generate s (.boolean n)).runFrom t = (.ok v, t₁) := ⟨_, _, rfl⟩
    obtain ⟨vs, t₂, hvs⟩ := ih hrest t₁
    exact ⟨v :: vs, t₂, Draw.runFrom_bind_ok.mpr
      ⟨v, t₁, hv, Draw.runFrom_bind_ok.mpr ⟨vs, t₂, hvs, rfl⟩⟩⟩

/-- A tuple of coins is drawn to its end, and begins with what the seed shows. -/
theorem Sampling.exists_replay_of_coinShows (hcoins : ∀ d ∈ ds, ∃ n, d = .boolean n)
    (h : coinShows seed b = true) :
    ∃ vs, s.replay (.boolean n :: ds) seed = .ok (.bool b :: vs) := by
  obtain ⟨t₁, hcoin⟩ := runFrom_of_coinShows (s := s) (n := n) h
  obtain ⟨vs, t₂, hvs⟩ := Descriptor.exists_generateAll_coins (s := s) hcoins t₁
  have hdrawn : (Descriptor.generateAll s (.boolean n :: ds)).runFrom (Twister.ofSeed seed) =
      (.ok (.bool b :: vs), t₂) :=
    Draw.runFrom_bind_ok.mpr ⟨_, t₁, hcoin, Draw.runFrom_bind_ok.mpr ⟨vs, t₂, hvs, rfl⟩⟩
  exact ⟨vs, congrArg Prod.fst hdrawn⟩

end

/-! ## The coin to blame -/

namespace Runner

variable {r : Runner} {i : Invariant} {n : Option String} {ds : List Descriptor}

/-- Tails first, and heads on the first redraw: the coin is to blame. -/
theorem check_tails (hi : i.Ordinary) (hp : i.predicate = .first)
    (hds : i.descriptors = .boolean n :: ds) (hf : ∀ d ∈ ds, ¬ d.HasFunction)
    (hbudget : i.budget ≠ 0) (hon : r.checking.localizeFailures = true)
    (hattempts : r.checking.localizationAttempts ≠ 0) {vs : List Value}
    (htails : r.tuple i 0 = .ok (.bool false :: vs))
    (hheads : coinShows ↑(r.source.trialSeed 0 ^^^ redrawSalt) true = true) :
    (check i r).1.outcome = .ok ⟨i.label, .violated, i.budget, 1, r.seed,
      some (counterExample i (.bool false :: vs) 1 (r.source.trialSeed 0) none (some (0, []))),
      none⟩ := by
  obtain ⟨t', hredraw⟩ := runFrom_of_coinShows (s := r.sampling) (n := n) hheads
  have hfound : Leaf.Found r.sampling i.predicate (.bool false :: vs)
      ⟨0, .boolean n, .bool false, []⟩ (redrawSource (r.source.trialSeed 0)) t' := by
    refine ⟨.bool true :: vs, Draw.runFrom_bind_ok.mpr ⟨.bool true, t', hredraw, rfl⟩, ?_⟩
    rw [hp]
    rfl
  obtain ⟨leaves, hleaves⟩ : ∃ leaves, Leaf.all i.descriptors (.bool false :: vs) =
      ⟨0, .boolean n, .bool false, []⟩ :: leaves := by
    rw [hds]
    exact ⟨_, rfl⟩
  refine check_of_falsified hi.tellable ?_ hbudget htails (hp ▸ Predicate.falsified_first vs)
    (blame_of_found hon hattempts hleaves hfound)
  rw [hds]
  exact List.forall_mem_cons.mpr ⟨by simp [Descriptor.HasFunction], hf⟩

/-- From the seed 2 tails are drawn first, and the first redraw shows heads. -/
theorem tails_two :
    let seed := (ofSeed {} {} 2).source.trialSeed 0
    coinShows seed false = true ∧ coinShows ↑(seed ^^^ redrawSalt) true = true := by
  have htrial : Twister.Packed.forced (Twister.Packed.ofSeed 2) (fun n =>
      (Twister.bits 64 ⟨Twister.unpack n, 0⟩).1 == 15921556852572072307) = true := by
    decide +kernel
  have hseed : (ofSeed {} {} 2).source.trialSeed 0 = 15921556852572072307 := by
    rw [Twister.Packed.forced_eq, ← Twister.bits_ofSeed (by decide), beq_iff_eq] at htrial
    rw [ofSeed, Twister.trialSeed_zero, htrial]
  have htails : coinShows 15921556852572072307 false = true := by decide +kernel
  have hheads : coinShows ↑(15921556852572072307 ^^^ redrawSalt) true = true := by decide +kernel
  rw [hseed]
  exact ⟨htails, hheads⟩

/-- From the seed 2 the first of some coins is to blame, whatever their names. -/
theorem check_coins_two (hi : i.Ordinary) (hp : i.predicate = .first)
    (hds : i.descriptors = .boolean n :: ds) (hcoins : ∀ d ∈ ds, ∃ n, d = .boolean n)
    (hbudget : i.budget ≠ 0) :
    let r := ofSeed {} {} 2
    ∃ vs, (check i r).1.outcome = .ok ⟨i.label, .violated, i.budget, 1, 2,
      some (counterExample i (.bool false :: vs) 1 (r.source.trialSeed 0) none (some (0, []))),
      none⟩ := by
  intro r
  obtain ⟨htails, hheads⟩ := tails_two
  obtain ⟨vs, hvs⟩ := Sampling.exists_replay_of_coinShows (s := {}) (n := n) hcoins htails
  have hdrawn : r.tuple i 0 = .ok (.bool false :: vs) := by
    rw [tuple, hds]
    exact hvs
  have hf : ∀ d ∈ ds, ¬ d.HasFunction := by
    intro d hd
    obtain ⟨n, rfl⟩ := hcoins d hd
    simp [Descriptor.HasFunction]
  exact ⟨vs, check_tails hi hp hds hf hbudget rfl (by decide) hdrawn hheads⟩

end Runner

end Conformance
