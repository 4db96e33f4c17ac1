/-!
# Conformance.Random.Twister

The Mersenne Twister of 19937 bits: 624 words of state that are renewed
together and handed out one by one, each tempered on its way out.

`ofSeed` starts it from an integer of any size.  The seed's absolute value,
split into 32-bit words from the least significant, is the key of the
initialisation by array; zero has one word.
-/

namespace Conformance

/-- The words of the state and how many of them have been handed out. -/
structure Twister where
  words : Vector UInt32 624
  used : Nat

namespace Twister

/-- The number of words of the state. -/
def size : Nat := 624

theorem mod_size_lt (i : Nat) : i % 624 < 624 := Nat.mod_lt i (by decide)

/-- The word at a position, counted around. -/
def wordAt (words : Vector UInt32 624) (i : Nat) : UInt32 :=
  words.get ⟨i % 624, mod_size_lt i⟩

/-- Replaces the word at a position, counted around. -/
def setWord (words : Vector UInt32 624) (i : Nat) (w : UInt32) : Vector UInt32 624 :=
  words.set (i % 624) w (mod_size_lt i)

/-! ## Seeding -/

/-- A word mixed with its own high bits. -/
def spread (w : UInt32) : UInt32 := w ^^^ (w >>> 30)

/-- Fills the words from position `i` on, each from the one before. -/
def fill : (count i : Nat) → Vector UInt32 624 → Vector UInt32 624
  | 0, _, words => words
  | count + 1, i, words =>
    fill count (i + 1)
      (setWord words i (1812433253 * spread (wordAt words (i - 1)) + i.toUInt32))

/-- The state that a single word starts. -/
def ofWord (w : UInt32) : Vector UInt32 624 :=
  fill 623 1 (setWord (Vector.replicate 624 0) 0 w)

/-- The position after `i` in a pass over the words, which goes from the last
to the first but one, carrying the last word to the front. -/
def advance (i : Nat) (words : Vector UInt32 624) : Nat × Vector UInt32 624 :=
  if i + 1 < 624 then (i + 1, words) else (1, setWord words 0 (wordAt words 623))

/-- Mixes a key into the words, going around both. -/
def mixKey (key : Array UInt32) :
    (count i j : Nat) → Vector UInt32 624 → Nat × Vector UInt32 624
  | 0, i, _, words => (i, words)
  | count + 1, i, j, words =>
    let w := (wordAt words i ^^^ (spread (wordAt words (i - 1)) * 1664525)) +
      key.getD j 0 + j.toUInt32
    let (i, words) := advance i (setWord words i w)
    mixKey key count i (if j + 1 < key.size then j + 1 else 0) words

/-- Mixes the positions into the words. -/
def mixPositions : (count i : Nat) → Vector UInt32 624 → Vector UInt32 624
  | 0, _, words => words
  | count + 1, i, words =>
    let w := (wordAt words i ^^^ (spread (wordAt words (i - 1)) * 1566083941)) - i.toUInt32
    let (i, words) := advance i (setWord words i w)
    mixPositions count i words

/-- The state that a key starts. -/
def ofKey (key : Array UInt32) : Twister :=
  let (i, words) := mixKey key (max 624 key.size) 1 0 (ofWord 19650218)
  ⟨setWord (mixPositions 623 i words) 0 0x80000000, 624⟩

/-- The 32-bit words of a number, `count` of them, least significant first. -/
def wordsOf : (count n : Nat) → List UInt32
  | 0, _ => []
  | count + 1, n => n.toUInt32 :: wordsOf count (n / 2 ^ 32)

/-- How many 32-bit words a number has; zero has one. -/
def wordCount (n : Nat) : Nat := n.log2 / 32 + 1

/-- The state that a seed starts. -/
def ofSeed (seed : Int) : Twister :=
  ofKey (wordsOf (wordCount seed.natAbs) seed.natAbs).toArray

/-! ## Output -/

/-- The renewed word from a word, its successor and the word 397 places on. -/
def renewed (w successor distant : UInt32) : UInt32 :=
  let y := (w &&& 0x80000000) ||| (successor &&& 0x7fffffff)
  distant ^^^ (y >>> 1) ^^^ (if y &&& 1 = 0 then 0 else 0x9908b0df)

/-- Renews the words from position `i` on, in place. -/
def renew : (count i : Nat) → Vector UInt32 624 → Vector UInt32 624
  | 0, _, words => words
  | count + 1, i, words =>
    renew count (i + 1)
      (setWord words i (renewed (wordAt words i) (wordAt words (i + 1)) (wordAt words (i + 397))))

/-- The output made from a word. -/
def temper (w : UInt32) : UInt32 :=
  let w := w ^^^ (w >>> 11)
  let w := w ^^^ ((w <<< 7) &&& 0x9d2c5680)
  let w := w ^^^ ((w <<< 15) &&& 0xefc60000)
  w ^^^ (w >>> 18)

/-- The next output. -/
def next (t : Twister) : UInt32 × Twister :=
  let t := if t.used < 624 then t else ⟨renew 624 0 t.words, 0⟩
  (temper (wordAt t.words t.used), ⟨t.words, t.used + 1⟩)

/-- The bits of `full` whole outputs and the high `rest` bits of one more. -/
def bitsOf : (full rest : Nat) → Twister → Nat × Twister
  | 0, rest, t =>
    let (w, t) := t.next
    (w.toNat / 2 ^ (32 - rest), t)
  | full + 1, rest, t =>
    let (low, t) := t.next
    let (high, t) := bitsOf full rest t
    (low.toNat + 2 ^ 32 * high, t)

/-- The next `k` bits: outputs fill 32-bit words from the least significant,
and of the last output the high bits are taken. -/
def bits (k : Nat) (t : Twister) : Nat × Twister :=
  if k = 0 then (0, t) else bitsOf ((k - 1) / 32) ((k - 1) % 32 + 1) t

end Twister

end Conformance
