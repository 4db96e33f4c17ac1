import Conformance.Proofs.Random.Packed
import Mathlib

/-!
# Conformance.Proofs.Random.Reachable

Every pattern of bits is drawn from some state of the source.

The tempering of a word can be undone: each of its steps turns over bits of
a word that depend on bits of which that is known already
(`injective_xor`), so no two words are tempered to the same.  A state whose
words are tempered to given outputs hands these out one after the other
(`Twister.HandsOut`), and the outputs are chosen for the bits that are to be
drawn (`exists_bits`).  So the numbers that can be drawn from a range are all
of those in it (`Draw.exists_runFrom_between_iff`).
-/

namespace Conformance

namespace Twister

/-! ## Tempering -/

/-- A word with bits turned over can be told from the result, if which bit is
turned over depends only on bits of lower rank. -/
theorem injective_xor {g : UInt32 → UInt32} (rank : Nat → Nat)
    (h : ∀ v w i, (∀ j, rank j < rank i → v.toNat.testBit j = w.toNat.testBit j) →
      (g v).toNat.testBit i = (g w).toNat.testBit i) :
    Function.Injective fun w => w ^^^ g w := by
  intro v w hvw
  refine UInt32.toNat_inj.mp (Nat.eq_of_testBit_eq fun i => ?_)
  induction hn : rank i using Nat.strong_induction_on generalizing i with
  | _ n ih =>
    have hbit := congrArg (fun u : UInt32 => u.toNat.testBit i) hvw
    have hg := h v w i fun j hj => ih (rank j) (hn ▸ hj) j rfl
    simpa [UInt32.toNat_xor, Nat.testBit_xor, hg] using hbit

/-- From the high bit down. -/
theorem injective_xor_shiftRight {k : UInt32} (hk : 0 < k.toNat ∧ k.toNat < 32) :
    Function.Injective fun w : UInt32 => w ^^^ (w >>> k) := by
  refine injective_xor (32 - ·) fun v w i h => ?_
  rw [UInt32.toNat_shiftRight, UInt32.toNat_shiftRight, Nat.testBit_shiftRight,
    Nat.testBit_shiftRight, Nat.mod_eq_of_lt hk.2]
  by_cases hi : i < 32
  · exact h _ (by omega)
  · rw [Packed.testBit_beyond _ (by omega), Packed.testBit_beyond _ (by omega)]

/-- From the low bit up. -/
theorem injective_xor_shiftLeft {k : UInt32} (hk : 0 < k.toNat ∧ k.toNat < 32) (mask : UInt32) :
    Function.Injective fun w : UInt32 => w ^^^ ((w <<< k) &&& mask) := by
  refine injective_xor id fun v w i h => ?_
  simp only [UInt32.toNat_and, UInt32.toNat_shiftLeft, Nat.mod_eq_of_lt hk.2, Nat.testBit_and,
    Nat.testBit_mod_two_pow, Nat.testBit_shiftLeft]
  by_cases hi : k.toNat ≤ i
  · rw [h (i - k.toNat) (by simp only [id]; omega)]
  · simp [hi]

/-- No two words make the same output. -/
theorem temper_injective : Function.Injective temper := by
  have h₁ := injective_xor_shiftRight (k := 11) (by decide)
  have h₂ := injective_xor_shiftLeft (k := 7) (by decide) 0x9d2c5680
  have h₃ := injective_xor_shiftLeft (k := 15) (by decide) 0xefc60000
  have h₄ := injective_xor_shiftRight (k := 18) (by decide)
  exact h₄.comp (h₃.comp (h₂.comp h₁))

/-- Every output is made from some word. -/
theorem temper_surjective : Function.Surjective temper := by
  have : Finite UInt32 := Finite.of_injective UInt32.toFin fun _ _ => UInt32.toFin_inj.mp
  exact Finite.injective_iff_surjective.mp temper_injective

/-! ## States -/

/-- A state that the source can be in: no more than all of its words have
been handed out, and of the 19937 bits that are renewed (the low bits of the
first word are not among them) one at least is set. -/
structure Proper (t : Twister) : Prop where
  used : t.used ≤ 624
  nonzero : wordAt t.words 0 &&& 0x80000000 ≠ 0 ∨ ∃ i, 0 < i ∧ i < 624 ∧ wordAt t.words i ≠ 0

/-- A seed starts such a state. -/
theorem proper_ofSeed (seed : Int) : (ofSeed seed).Proper := by
  refine ⟨Nat.le_refl 624, .inl ?_⟩
  have hfirst : wordAt (ofSeed seed).words 0 = 0x80000000 := Vector.getElem_set_self ..
  rw [hfirst]
  decide

/-- These are the next outputs, before any words are renewed. -/
def HandsOut (t : Twister) (outputs : List UInt32) : Prop :=
  t.used + outputs.length ≤ 624 ∧
    ∀ i (h : i < outputs.length), temper (wordAt t.words (t.used + i)) = outputs[i]

/-- What is handed out first is the next output, and the others follow. -/
theorem next_of_handsOut {t : Twister} {w : UInt32} {outputs : List UInt32}
    (h : t.HandsOut (w :: outputs)) :
    ∃ t', t.next = (w, t') ∧ t'.HandsOut outputs := by
  obtain ⟨hroom, hout⟩ := h
  rw [List.length_cons] at hroom
  have hfirst : temper (wordAt t.words t.used) = w := hout 0 (Nat.succ_pos _)
  refine ⟨⟨t.words, t.used + 1⟩, ?_, ?_, fun i hi => ?_⟩
  · rw [next, if_pos (by omega), hfirst]
  · show t.used + 1 + outputs.length ≤ 624
    omega
  · have hnext := hout (i + 1) (Nat.succ_lt_succ hi)
    rw [List.getElem_cons_succ, ← Nat.add_assoc, Nat.add_right_comm] at hnext
    exact hnext

/-- A state of which the first word counts as handed out and these words are next. -/
def ofWords (words : List UInt32) : Twister :=
  ⟨Vector.ofFn fun i => if i.val = 0 then 0x80000000 else words.getD (i.val - 1) 0, 1⟩

/-- The words of a state made from words: the first is fixed, the others are those given. -/
theorem wordAt_ofWords (words : List UInt32) {i : Nat} (hi : i < 624) :
    wordAt (ofWords words).words i = if i = 0 then 0x80000000 else words.getD (i - 1) 0 := by
  have hget : wordAt (ofWords words).words i = (ofWords words).words[i] := by
    unfold wordAt
    simp only [Nat.mod_eq_of_lt hi]
    rfl
  rw [hget]
  exact Vector.getElem_ofFn hi

/-- A state that is made from words is proper. -/
theorem proper_ofWords (words : List UInt32) : (ofWords words).Proper := by
  refine ⟨show 1 ≤ 624 by decide, .inl ?_⟩
  rw [wordAt_ofWords words (by decide), if_pos rfl]
  decide

/-- For up to 623 outputs there is a state that hands them out next. -/
theorem exists_handsOut {outputs : List UInt32} (h : outputs.length ≤ 623) :
    ∃ t : Twister, t.Proper ∧ t.HandsOut outputs := by
  obtain ⟨words, rfl⟩ := List.map_surjective_iff.mpr temper_surjective outputs
  rw [List.length_map] at h
  have hused : (ofWords words).used = 1 := rfl
  refine ⟨ofWords words, proper_ofWords words, ?_, fun i hi => ?_⟩
  · rw [hused, List.length_map]
    omega
  · rw [List.length_map] at hi
    rw [hused, wordAt_ofWords words (by omega), if_neg (by omega), Nat.add_sub_cancel_left,
      List.getD_eq_getElem?_getD, List.getElem?_eq_getElem hi, Option.getD_some, List.getElem_map]

/-! ## Bits -/

/-- The outputs from which the bits of a number are taken. -/
def outputsOf : (full rest r : Nat) → List UInt32
  | 0, rest, r => [(r * 2 ^ (32 - rest)).toUInt32]
  | full + 1, rest, r => r.toUInt32 :: outputsOf full rest (r / 2 ^ 32)

/-- A number takes one output more than there are full words. -/
theorem length_outputsOf (full rest r : Nat) : (outputsOf full rest r).length = full + 1 := by
  induction full generalizing r with
  | zero => rfl
  | succ full ih => rw [outputsOf, List.length_cons, ih]

theorem bitsOf_zero (rest : Nat) (t : Twister) :
    bitsOf 0 rest t = (t.next.1.toNat / 2 ^ (32 - rest), t.next.2) := rfl

theorem bitsOf_succ (full rest : Nat) (t : Twister) :
    bitsOf (full + 1) rest t =
      (t.next.1.toNat + 2 ^ 32 * (bitsOf full rest t.next.2).1, (bitsOf full rest t.next.2).2) :=
  rfl

/-- The outputs for a number make up that number. -/
theorem bitsOf_of_handsOut {full rest r : Nat} {t : Twister} (hrest : rest ≤ 32)
    (hr : r < 2 ^ (32 * full + rest)) (h : t.HandsOut (outputsOf full rest r)) :
    (bitsOf full rest t).1 = r := by
  induction full generalizing r t with
  | zero =>
    obtain ⟨t', ht', -⟩ := next_of_handsOut h
    have hpad : 2 ^ rest * 2 ^ (32 - rest) = 2 ^ 32 := by
      rw [← Nat.pow_add, Nat.add_sub_cancel' hrest]
    have hfits : r * 2 ^ (32 - rest) < 2 ^ 32 := by
      rw [Nat.mul_zero, Nat.zero_add] at hr
      rw [← hpad]
      exact Nat.mul_lt_mul_of_pos_right hr (Nat.two_pow_pos _)
    rw [bitsOf_zero, ht']
    dsimp only
    rw [Nat.toUInt32, UInt32.toNat_ofNat_of_lt' hfits, Nat.mul_div_cancel _ (Nat.two_pow_pos _)]
  | succ full ih =>
    obtain ⟨t', ht', hleft⟩ := next_of_handsOut h
    have hhigh : r / 2 ^ 32 < 2 ^ (32 * full + rest) := by
      rw [Nat.div_lt_iff_lt_mul (Nat.two_pow_pos 32), ← Nat.pow_add]
      exact Nat.lt_of_lt_of_eq hr (congrArg (2 ^ ·) (by omega))
    rw [bitsOf_succ, ht']
    dsimp only
    rw [ih hhigh hleft, Nat.toUInt32, UInt32.toNat_ofNat', Nat.mod_add_div]

/-- Up to 19936 bits can turn out to be any number that has no more bits. -/
theorem exists_bits {k r : Nat} (hk : k ≤ 19936) (hr : r < 2 ^ k) :
    ∃ t : Twister, t.Proper ∧ (bits k t).1 = r := by
  unfold bits
  split
  · next hzero =>
    subst hzero
    exact ⟨ofWords [], proper_ofWords [], (Nat.lt_one_iff.mp hr).symm⟩
  · next hpos =>
    have hlength : (outputsOf ((k - 1) / 32) ((k - 1) % 32 + 1) r).length ≤ 623 := by
      rw [length_outputsOf]
      omega
    obtain ⟨t, hproper, hout⟩ := exists_handsOut hlength
    refine ⟨t, hproper, bitsOf_of_handsOut (by omega) ?_ hout⟩
    exact Nat.lt_of_lt_of_eq hr (congrArg (2 ^ ·) (by omega))

end Twister

/-! ## Numbers of a range -/

namespace Draw

/-- A number below `n` is drawn from some state, at the first try. -/
theorem exists_runFrom_below (patience : Nat) {n r : Nat} (hn : n.log2 < 19936) (hr : r < n) :
    ∃ t t', t.Proper ∧ (below patience n).runFrom t = (.ok r, t') := by
  obtain ⟨t, hproper, hbits⟩ :=
    Twister.exists_bits hn (Nat.lt_trans hr Nat.lt_log2_self)
  refine ⟨t, (Twister.bits (n.log2 + 1) t).2, hproper, ?_⟩
  refine runFrom_bind_ok.mpr ⟨r, _, ?_, by rw [if_pos hr, runFrom_pure]⟩
  exact congrArg (fun drawn => (Except.ok drawn, _)) hbits

/-- The numbers that can be drawn from a range are those that lie in it. -/
theorem exists_runFrom_between_iff (patience : Nat) {low high i : Int}
    (hwidth : (high - low + 1).toNat.log2 < 19936) :
    (∃ t t', t.Proper ∧ (between patience low high).runFrom t = (.ok i, t')) ↔ low ≤ i ∧ i ≤ high := by
  constructor
  · rintro ⟨t, t', -, h⟩
    exact mem_range_of_runFrom_between h
  · intro hi
    obtain ⟨t, t', hproper, hbelow⟩ :=
      exists_runFrom_below patience (r := (i - low).toNat) hwidth (by omega)
    refine ⟨t, t', hproper, runFrom_bind_ok.mpr ⟨_, t', hbelow, ?_⟩⟩
    have hsum : low + ((i - low).toNat : Int) = i := by omega
    rw [hsum, runFrom_pure]

end Draw

end Conformance
