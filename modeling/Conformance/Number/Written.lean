import Conformance.Number.Shortest

/-!
# Conformance.Number.Written

Doubles as text.  The digits are the shortest that read back; a `Layout`
holds the decisions of a format: which magnitudes are written positionally,
how an exponent looks, and the texts of the special values.
-/

namespace Conformance.Number

/-- The choices a format makes about the text of a double. -/
structure Layout where
  /-- The least power of ten of the leading digit that is written positionally. -/
  positionalFrom : Int
  /-- The first power of ten of the leading digit that is not. -/
  positionalTo : Int
  /-- What follows an integral value written positionally. -/
  integralTail : String
  /-- The mark before an exponent. -/
  mark : String
  /-- The least number of digits of an exponent. -/
  exponentWidth : Nat
  notANumber : String
  infinity : String

namespace Layout

/-- Zeros in front of `s` up to a width. -/
def padLeft (width : Nat) (s : String) : String :=
  String.ofList (List.replicate (width - s.length) '0') ++ s

/-- A decimal with its point in place: the leading digit stands at `10 ^ p`. -/
def positional (l : Layout) (digits : List Char) (p : Int) : String :=
  if p < 0 then
    "0." ++ String.ofList (List.replicate (-p - 1).toNat '0' ++ digits)
  else
    let whole := p.toNat + 1
    if digits.length ≤ whole then
      String.ofList (digits ++ List.replicate (whole - digits.length) '0') ++ l.integralTail
    else String.ofList (digits.take whole) ++ "." ++ String.ofList (digits.drop whole)

/-- A decimal with an exponent: the leading digit stands at `10 ^ p`. -/
def scientific (l : Layout) (digits : List Char) (p : Int) : String :=
  let sign := if p < 0 then "-" else "+"
  let tail := match digits.drop 1 with
    | [] => ""
    | rest => "." ++ String.ofList rest
  String.ofList (digits.take 1) ++ tail ++ l.mark ++ sign ++
    padLeft l.exponentWidth (toString p.natAbs)

/-- The digits of a decimal without the zeros at its end. -/
def significant (d : Decimal) : List Char :=
  ((Nat.toDigits 10 d.digits).reverse.dropWhile (· == '0')).reverse

/-- A positive decimal. -/
def decimal (l : Layout) (d : Decimal) : String :=
  let p := d.exponent + digitCount d.digits - 1
  if l.positionalFrom ≤ p ∧ p < l.positionalTo then l.positional (significant d) p
  else l.scientific (significant d) p

/-- The text of a double. -/
def write (l : Layout) (x : Float) : String :=
  match Exact.ofFloat? x with
  | none => if x.isNaN then l.notANumber else if 0 < x then l.infinity else "-" ++ l.infinity
  | some e =>
    let sign := if e.negative then "-" else ""
    if e.mantissa = 0 then sign ++ "0" ++ l.integralTail
    else sign ++ l.decimal (shortest e.mantissa e.exponent)

end Layout

end Conformance.Number
