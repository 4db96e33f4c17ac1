/-!
# Conformance.Number.Exact

The exact value of a finite double, `± mantissa · 2 ^ exponent`, read off its
bits, and the operations on doubles and integers that must not round:
comparison with an integer, the integer part, and the remainder that takes
the sign of the divisor.
-/

namespace Conformance.Number

/-- The value `(-1) ^ negative · mantissa · 2 ^ exponent`. -/
structure Exact where
  negative : Bool
  mantissa : Nat
  exponent : Int
deriving DecidableEq, Repr

namespace Exact

/-- The value of a double, `none` for infinities and for what is not a number. -/
def ofFloat? (x : Float) : Option Exact :=
  let bits := x.toBits.toNat
  let negative := bits / Nat.pow 2 63 == 1
  let exponent : Nat := bits / Nat.pow 2 52 % Nat.pow 2 11
  let fraction : Nat := bits % Nat.pow 2 52
  if exponent = 2047 then none
  else if exponent = 0 then some ⟨negative, fraction, -1074⟩
  else some ⟨negative, fraction + Nat.pow 2 52, (exponent : Int) - 1075⟩

/-- The signed mantissa. -/
def signed (e : Exact) : Int :=
  if e.negative then -(e.mantissa : Int) else e.mantissa

/-- The numerator over `2 ^ places`, for `places` at least `-e.exponent`. -/
def scaled (e : Exact) (places : Nat) : Int :=
  e.signed * (Nat.pow 2 (e.exponent + places).toNat : Nat)

/-- The number of binary places behind the point. -/
def places (e : Exact) : Nat := (-e.exponent).toNat

/-- The integer part, rounded toward zero. -/
def truncate (e : Exact) : Int :=
  (e.scaled e.places).tdiv (Nat.pow 2 e.places : Nat)

/-- Whether nothing stands behind the point. -/
def isIntegral (e : Exact) : Bool :=
  e.scaled e.places % (Nat.pow 2 e.places : Nat) == 0

/-- Compares an integer with the value. -/
def compareInt (n : Int) (e : Exact) : Ordering :=
  compare (n * (Nat.pow 2 e.places : Nat)) (e.scaled e.places)

end Exact

/-- Compares an integer with a double without rounding either; `none` if the
double is not a number. -/
def compareIntFloat (n : Int) (x : Float) : Option Ordering :=
  match Exact.ofFloat? x with
  | some e => some (e.compareInt n)
  | none => if x.isNaN then none else if 0 < x then some .lt else some .gt

/-- The remainder of `x` by `y ≠ 0`, exact, with the sign of `y`.  A zero
remainder is a zero of that sign, and an infinite divisor leaves a dividend
of its own sign as it is. -/
def floorMod (x y : Float) : Float :=
  match Exact.ofFloat? x, Exact.ofFloat? y with
  | some a, some b =>
    let places := max a.places b.places
    let r := (a.scaled places).tmod (b.scaled places)
    if r = 0 then (if b.negative then -0.0 else 0.0)
    else
      let rest := (Float.ofInt r).scaleB (-places)
      if (rest < 0) == b.negative then rest else rest + y
  | some a, none =>
    if y.isNaN then y
    else if a.mantissa = 0 then (if y < 0 then -0.0 else 0.0)
    else if a.negative == decide (y < 0) then x else y
  | none, _ => 0.0 / 0.0

end Conformance.Number
