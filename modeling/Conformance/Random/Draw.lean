import Conformance.Random.Twister
import Conformance.Error

/-!
# Conformance.Random.Draw

Draws from a random source.  A draw changes the source and yields a value
or ends with a fault; the source is as it was left either way.

1. `bits k` — `k` random bits.
2. `below n` — uniform over `0 … n - 1`: as many bits as `n` has, drawn
   again while the result is not below `n`.
3. `between low high` — uniform over an inclusive range.
4. `unit` — uniform over the multiples of `2 ^ -53` in `[0, 1)`.
5. `uniform low high` — `low + (high - low) * unit`, in doubles.
6. `choose xs` — one of `xs`, each as likely.

A number that is not below `n` is drawn again, so often as the `patience` of
whoever draws allows.  Then the draw is given up as `Fault.unfinished`; every
other draw comes to an end.
-/

namespace Conformance

/-- A draw of a value from a random source. -/
abbrev Draw (α : Type) := ExceptT Fault (StateM Twister) α

namespace Draw

/-- Runs a draw on a source. -/
def runFrom {α : Type} (d : Draw α) (source : Twister) : Except Fault α × Twister :=
  d.run.run source

/-- One output. -/
def word : Draw UInt32 := modifyGet Twister.next

/-- `k` random bits. -/
def bits (k : Nat) : Draw Nat := modifyGet (Twister.bits k)

/-- Draws `k` bits until they are below `n`, at most `tries` times. -/
def belowWithin (n k : Nat) : (tries : Nat) → Draw Nat
  | 0 => throw .unfinished
  | tries + 1 => do
    let r ← bits k
    if r < n then pure r else belowWithin n k tries

/-- A number below `n`, drawn again at most `patience` times. -/
def below (patience n : Nat) : Draw Nat := belowWithin n (n.log2 + 1) (patience + 1)

/-- A number from an inclusive range that is not empty. -/
def between (patience : Nat) (low high : Int) : Draw Int := do
  let r ← below patience (high - low + 1).toNat
  pure (low + r)

/-- A double of the unit interval. -/
def unit : Draw Float := do
  let a ← word
  let b ← word
  pure (Float.ofNat ((a >>> 5).toNat * 67108864 + (b >>> 6).toNat) / 9007199254740992.0)

/-- A double between two bounds. -/
def uniform (low high : Float) : Draw Float := do
  let u ← unit
  pure (low + (high - low) * u)

/-- One of several. -/
def choose {α : Type} (patience : Nat) (xs : List α) : Draw α := do
  let i ← below patience xs.length
  match xs[i]? with
  | some x => pure x
  | none => throw .unfinished

/-- As many draws as asked for, one after the other. -/
def times {α : Type} : (count : Nat) → Draw α → Draw (List α)
  | 0, _ => pure []
  | count + 1, d => do
    let x ← d
    let xs ← times count d
    pure (x :: xs)

end Draw

end Conformance
