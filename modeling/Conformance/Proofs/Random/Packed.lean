import Conformance.Proofs.Random.Draw

/-!
# Conformance.Proofs.Random.Packed

The words of a twister packed into one number.

A vector of words is too slow to be followed word by word: each replacement
copies it, and a seed takes two thousand of them.  Packed, the word at
position `i` stands at the bits from `32 * i` on, and to replace it is to turn
over some of them.  The functions of `Packed` are those of `Twister`, step by
step; `unpack` relates the two, and a seed starts what its packed words do
(`ready_ofSeed`).

The words of a seed are renewed before the first output.  A draw that takes
an output before anything else is the same from the renewed words
(`Draw.Reads`).
-/

namespace Conformance

namespace Twister

/-! ## Packed words -/

namespace Packed

/-- The word at a position, counted around. -/
def wordAt (n i : Nat) : UInt32 := UInt32.ofNat (n >>> (32 * (i % 624)))

/-- Replaces the word at a position, counted around, by turning the bits over
in which the old word and the new one differ. -/
def setWord (n i : Nat) (w : UInt32) : Nat :=
  n ^^^ ((wordAt n i ^^^ w).toNat <<< (32 * (i % 624)))

/-- A word has no bits from the 32nd on. -/
theorem testBit_beyond (w : UInt32) {k : Nat} (hk : 32 ≤ k) : w.toNat.testBit k = false :=
  Nat.testBit_lt_two_pow (Nat.lt_of_lt_of_le w.toNat_lt (Nat.pow_le_pow_right (by decide) hk))

/-- The bits of a packed word are those from 32 times its position on. -/
theorem testBit_wordAt (n i : Nat) {k : Nat} (hk : k < 32) :
    (wordAt n i).toNat.testBit k = n.testBit (32 * (i % 624) + k) := by
  rw [wordAt, UInt32.toNat_ofNat', Nat.testBit_mod_two_pow, Nat.testBit_shiftRight,
    decide_eq_true hk, Bool.true_and]

/-- To replace a word changes the bits of its position and no others. -/
theorem testBit_setWord (n i : Nat) (w : UInt32) (j : Nat) {k : Nat} (hk : k < 32) :
    (setWord n i w).testBit (32 * (j % 624) + k) =
      if j % 624 = i % 624 then w.toNat.testBit k else n.testBit (32 * (j % 624) + k) := by
  rw [setWord, Nat.testBit_xor, Nat.testBit_shiftLeft]
  rcases Nat.lt_trichotomy (j % 624) (i % 624) with h | h | h
  · have hbelow : ¬ 32 * (i % 624) ≤ 32 * (j % 624) + k := by omega
    simp [hbelow, Nat.ne_of_lt h]
  · have hinside : 32 * (i % 624) + k - 32 * (i % 624) = k := by omega
    simp [h, hinside, testBit_wordAt n i hk]
  · have habove : 32 ≤ 32 * (j % 624) + k - 32 * (i % 624) := by omega
    rw [testBit_beyond _ habove, Bool.and_false, Bool.xor_false, if_neg (Nat.ne_of_gt h)]

/-- What is put at a position is found there, and the other words are left as they were. -/
theorem wordAt_setWord (n i : Nat) (w : UInt32) (j : Nat) :
    wordAt (setWord n i w) j = if j % 624 = i % 624 then w else wordAt n j := by
  refine UInt32.toNat_inj.mp (Nat.eq_of_testBit_eq fun k => ?_)
  by_cases hk : k < 32
  · rw [testBit_wordAt _ _ hk, testBit_setWord n i w j hk]
    split
    · rfl
    · rw [testBit_wordAt n j hk]
  · rw [testBit_beyond _ (Nat.not_lt.mp hk), testBit_beyond _ (Nat.not_lt.mp hk)]

/-- Hands on a number after it has been evaluated: to tell zero from a
successor takes its value.  Without it a number would be handed on as the
arithmetic that it comes from. -/
def forced {α : Type} (n : Nat) (k : Nat → α) : α :=
  match n with
  | 0 => k 0
  | m + 1 => k (m + 1)

@[simp] theorem forced_eq {α : Type} (n : Nat) (k : Nat → α) : forced n k = k n := by
  cases n with
  | zero => rfl
  | succ m => rfl

/-- Fills the words from position `i` on, each from the one before. -/
def fill : (count i n : Nat) → Nat
  | 0, _, n => n
  | count + 1, i, n =>
    forced (setWord n i (1812433253 * spread (wordAt n (i - 1)) + i.toUInt32)) fun n =>
      forced (i + 1) fun i => fill count i n

/-- The words that a single word starts. -/
def ofWord (w : UInt32) : Nat := fill 623 1 (setWord 0 0 w)

/-- The position after `i` in a pass over the words, with the last word
carried to the front. -/
def advance (i n : Nat) : Nat × Nat :=
  if i + 1 < 624 then (i + 1, n) else (1, setWord n 0 (wordAt n 623))

/-- Mixes a key into the words, going around both. -/
def mixKey (key : Array UInt32) : (count i j n : Nat) → Nat × Nat
  | 0, i, _, n => (i, n)
  | count + 1, i, j, n =>
    let w := (wordAt n i ^^^ (spread (wordAt n (i - 1)) * 1664525)) + key.getD j 0 + j.toUInt32
    let (i, n) := advance i (setWord n i w)
    forced n fun n => forced i fun i => forced (if j + 1 < key.size then j + 1 else 0) fun j =>
      mixKey key count i j n

/-- Mixes the positions into the words. -/
def mixPositions : (count i n : Nat) → Nat
  | 0, _, n => n
  | count + 1, i, n =>
    let w := (wordAt n i ^^^ (spread (wordAt n (i - 1)) * 1566083941)) - i.toUInt32
    let (i, n) := advance i (setWord n i w)
    forced n fun n => forced i fun i => mixPositions count i n

/-- The words that a key starts. -/
def ofKey (key : Array UInt32) : Nat :=
  let (i, n) := mixKey key (max 624 key.size) 1 0 (ofWord 19650218)
  setWord (mixPositions 623 i n) 0 0x80000000

/-- Renews the words from position `i` on, in place. -/
def renew : (count i n : Nat) → Nat
  | 0, _, n => n
  | count + 1, i, n =>
    forced (setWord n i (renewed (wordAt n i) (wordAt n (i + 1)) (wordAt n (i + 397)))) fun n =>
      forced (i + 1) fun i => renew count i n

/-- The words that are handed out first from a seed. -/
def ofSeed (seed : Int) : Nat :=
  renew 624 0 (ofKey (wordsOf (wordCount seed.natAbs) seed.natAbs).toArray)

end Packed

/-! ## Words unpacked -/

/-- The words that a number packs. -/
def unpack (n : Nat) : Vector UInt32 624 :=
  ⟨((List.range 624).map (Packed.wordAt n)).toArray, by simp⟩

/-- The words of the vector are the packed ones. -/
theorem getElem_unpack (n : Nat) {i : Nat} (hi : i < 624) :
    (unpack n)[i] = Packed.wordAt n i := by
  simp [unpack]

/-- A word is the same packed and unpacked. -/
theorem wordAt_unpack (n i : Nat) : wordAt (unpack n) i = Packed.wordAt n i := by
  show (unpack n)[i % 624] = _
  rw [getElem_unpack n (mod_size_lt i), Packed.wordAt, Nat.mod_mod]
  rfl

/-- A word can be replaced before the words are unpacked, or after. -/
theorem setWord_unpack (n i : Nat) (w : UInt32) :
    setWord (unpack n) i w = unpack (Packed.setWord n i w) := by
  refine Vector.ext fun j hj => ?_
  rw [setWord, Vector.getElem_set, getElem_unpack _ hj, getElem_unpack _ hj, Packed.wordAt_setWord,
    Nat.mod_eq_of_lt hj]
  simp only [eq_comm]

/-- The words are filled alike, packed or not. -/
theorem fill_unpack (count i n : Nat) :
    fill count i (unpack n) = unpack (Packed.fill count i n) := by
  induction count generalizing i n with
  | zero => rfl
  | succ count ih =>
    simp only [fill, Packed.fill, wordAt_unpack, setWord_unpack, ih, Packed.forced_eq]

/-- A single word starts the words that are packed for it. -/
theorem ofWord_eq_unpack (w : UInt32) : ofWord w = unpack (Packed.ofWord w) := by
  have hzero : Vector.replicate 624 0 = unpack 0 := by
    refine Vector.ext fun i hi => ?_
    rw [Vector.getElem_replicate, getElem_unpack 0 hi, Packed.wordAt, Nat.zero_shiftRight]
    rfl
  rw [ofWord, hzero, setWord_unpack, fill_unpack, Packed.ofWord]

/-- A step of a pass over the words is the same packed and unpacked. -/
theorem advance_unpack (i n : Nat) :
    advance i (unpack n) = ((Packed.advance i n).1, unpack (Packed.advance i n).2) := by
  unfold advance Packed.advance
  split
  · rfl
  · rw [wordAt_unpack, setWord_unpack]

/-- A key is mixed into packed words as into a vector of them. -/
theorem mixKey_unpack (key : Array UInt32) (count i j n : Nat) :
    mixKey key count i j (unpack n) =
      ((Packed.mixKey key count i j n).1, unpack (Packed.mixKey key count i j n).2) := by
  induction count generalizing i j n with
  | zero => rfl
  | succ count ih =>
    simp only [mixKey, Packed.mixKey, wordAt_unpack, setWord_unpack, advance_unpack, ih,
      Packed.forced_eq]

theorem mixPositions_unpack (count i n : Nat) :
    mixPositions count i (unpack n) = unpack (Packed.mixPositions count i n) := by
  induction count generalizing i n with
  | zero => rfl
  | succ count ih =>
    simp only [mixPositions, Packed.mixPositions, wordAt_unpack, setWord_unpack, advance_unpack, ih,
      Packed.forced_eq]

/-- A key starts the words that are packed for it, all of which are used up. -/
theorem ofKey_eq_unpack (key : Array UInt32) : ofKey key = ⟨unpack (Packed.ofKey key), 624⟩ := by
  simp only [ofKey, Packed.ofKey, ofWord_eq_unpack, mixKey_unpack, mixPositions_unpack,
    setWord_unpack]

/-- The words are renewed alike, packed or not. -/
theorem renew_unpack (count i n : Nat) :
    renew count i (unpack n) = unpack (Packed.renew count i n) := by
  induction count generalizing i n with
  | zero => rfl
  | succ count ih =>
    simp only [renew, Packed.renew, wordAt_unpack, setWord_unpack, ih, Packed.forced_eq]

/-! ## Renewal -/

/-- A source of which the next word can be handed out: its words are renewed
if all of them have been. -/
def ready (t : Twister) : Twister := if t.used < 624 then t else ⟨renew 624 0 t.words, 0⟩

/-- From a ready source a word can be handed out. -/
theorem used_ready_lt (t : Twister) : t.ready.used < 624 := by
  unfold ready
  split
  · assumption
  · exact Nat.succ_pos 623

/-- To make a source ready does not change its next word. -/
theorem next_ready (t : Twister) : t.ready.next = t.next := by
  show (let u := if t.ready.used < 624 then t.ready else _
    (temper (wordAt u.words u.used), (⟨u.words, u.used + 1⟩ : Twister))) = _
  rw [if_pos t.used_ready_lt]
  rfl

theorem bitsOf_ready (full rest : Nat) (t : Twister) :
    bitsOf full rest t.ready = bitsOf full rest t := by
  cases full with
  | zero =>
    exact congrArg (fun out : UInt32 × Twister => (out.1.toNat / 2 ^ (32 - rest), out.2))
      t.next_ready
  | succ full =>
    exact congrArg (fun out : UInt32 × Twister =>
      let more := bitsOf full rest out.2
      (out.1.toNat + 2 ^ 32 * more.1, more.2)) t.next_ready

/-- As long as any bits are asked for, they are the same from the ready source. -/
theorem bits_ready {k : Nat} (hk : k ≠ 0) (t : Twister) : bits k t.ready = bits k t := by
  unfold bits
  rw [if_neg hk, if_neg hk, bitsOf_ready]

/-- A seed starts what its packed words do. -/
theorem ready_ofSeed (seed : Int) : (ofSeed seed).ready = ⟨unpack (Packed.ofSeed seed), 0⟩ := by
  rw [ofSeed, ofKey_eq_unpack, ready, if_neg (Nat.lt_irrefl 624), renew_unpack]
  rfl

/-- What a seed hands out first can be computed from its packed words. -/
theorem bits_ofSeed {k : Nat} (hk : k ≠ 0) (seed : Int) :
    bits k (ofSeed seed) = bits k ⟨unpack (Packed.ofSeed seed), 0⟩ := by
  rw [← ready_ofSeed, bits_ready hk]

end Twister

/-! ## Draws from renewed words -/

namespace Draw

variable {α β : Type}

/-- The draw takes an output before anything else. -/
def Reads (d : Draw α) : Prop := ∀ t : Twister, d.runFrom t.ready = d.runFrom t

/-- What is drawn first decides whether a draw reads. -/
theorem Reads.bind {x : Draw α} (hx : x.Reads) (f : α → Draw β) : (x >>= f).Reads := by
  intro t
  rw [runFrom_bind, runFrom_bind, hx t]

theorem reads_bits {k : Nat} (hk : k ≠ 0) : (bits k).Reads := by
  intro t
  show (Except.ok (t.ready.bits k).1, (t.ready.bits k).2) = _
  rw [Twister.bits_ready hk]
  rfl

theorem reads_unit : unit.Reads := by
  have hword : word.Reads := fun t => congrArg (fun out => (Except.ok out.1, out.2)) t.next_ready
  exact hword.bind _

theorem reads_below (patience n : Nat) : (below patience n).Reads :=
  (reads_bits (Nat.succ_ne_zero n.log2)).bind _

theorem reads_between (patience : Nat) (low high : Int) : (between patience low high).Reads :=
  (reads_below _ _).bind _

end Draw

end Conformance
