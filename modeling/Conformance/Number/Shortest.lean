import Conformance.Number.Exact

/-!
# Conformance.Number.Shortest

The shortest decimal that reads back as a given double, and among those of
that length the nearest one, an even last digit deciding between two that
are equally near.

A positive double `m · 2 ^ q` is the reading of every real between the
midpoints to its two neighbours, the midpoints themselves included exactly
when `m` is even.  On each decimal grid of 1, 2, … 17 digits only the two
points next to the value can lie in that interval if any does, so the first
grid on which one of them does gives the answer.  All arithmetic is on `Nat`.
-/

namespace Conformance.Number

/-- The decimal `digits · 10 ^ exponent`. -/
structure Decimal where
  digits : Nat
  exponent : Int
deriving DecidableEq, Repr

/-- How many decimal digits `n` has; zero has one. -/
def digitCount (n : Nat) : Nat := (Nat.toDigits 10 n).length

namespace Shortest

/-- The reals that read as `m · 2 ^ q`, in units of `2 ^ (q - 2)`. -/
structure Interval where
  low : Nat
  value : Nat
  high : Nat
  closed : Bool
  unit : Int

/-- The midpoints around `m · 2 ^ q`.  Below a power of two the neighbour is
half as far away, except at the bottom of the range. -/
def interval (m : Nat) (q : Int) : Interval where
  low := if m = Nat.pow 2 52 ∧ -1074 < q then 4 * m - 1 else 4 * m - 2
  value := 4 * m
  high := 4 * m + 2
  closed := m % 2 == 0
  unit := q - 2

/-- Compares `d · 10 ^ k` with `n · 2 ^ u`. -/
def compareScaled (d : Nat) (k : Int) (n : Nat) (u : Int) : Ordering :=
  compare (d * Nat.pow 10 k.toNat * Nat.pow 2 (-u).toNat)
    (n * Nat.pow 2 u.toNat * Nat.pow 10 (-k).toNat)

/-- Whether `d · 10 ^ k` reads as the value. -/
def Interval.holds (i : Interval) (d : Nat) (k : Int) : Bool :=
  let below := compareScaled d k i.low i.unit
  let above := compareScaled d k i.high i.unit
  (below == .gt || (i.closed && below == .eq)) && (above == .lt || (i.closed && above == .eq))

/-- The largest `p` with `10 ^ p ≤ m · 2 ^ q`, for positive `m`. -/
def magnitude (m : Nat) (q : Int) : Int :=
  if 0 ≤ q then digitCount (m * Nat.pow 2 q.toNat) - 1
  else
    let unit := Nat.pow 2 (-q).toNat
    if unit ≤ m then digitCount (m / unit) - 1
    else -(digitCount ((unit + m - 1) / m - 1) : Int)

/-- The integer part of `m · 2 ^ q / 10 ^ k`. -/
def quotient (m : Nat) (q k : Int) : Nat :=
  (m * Nat.pow 2 q.toNat * Nat.pow 10 (-k).toNat) / (Nat.pow 2 (-q).toNat * Nat.pow 10 k.toNat)

/-- The point of the grid `10 ^ k` that stands for the value, if one does. -/
def onGrid? (i : Interval) (m : Nat) (q k : Int) : Option Nat :=
  let d := quotient m q k
  match i.holds d k, i.holds (d + 1) k with
  | true, false => some d
  | false, true => some (d + 1)
  | false, false => none
  | true, true =>
    match compareScaled (2 * d + 1) k (2 * i.value) i.unit with
    | .gt => some d
    | .lt => some (d + 1)
    | .eq => some (if d % 2 = 0 then d else d + 1)

/-- Tries the grids with the leading digit at `10 ^ p` from `n` digits on. -/
def search (i : Interval) (m : Nat) (q p : Int) : (tries n : Nat) → Decimal
  | 0, _ => ⟨quotient m q (p - 16), p - 16⟩
  | tries + 1, n =>
    match onGrid? i m q (p - n + 1) with
    | some d => ⟨d, p - n + 1⟩
    | none => search i m q p tries (n + 1)

end Shortest

/-- The shortest decimal that reads back as `m · 2 ^ q`, for positive `m`. -/
def shortest (m : Nat) (q : Int) : Decimal :=
  Shortest.search (Shortest.interval m q) m q (Shortest.magnitude m q) 17 1

end Conformance.Number
