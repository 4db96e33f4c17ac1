import Conformance.Number.Shortest
import Conformance.Text.Blank
import Conformance.Text.Digit

/-!
# Conformance.Number.Reading

Numbers read from text.  Digits may be grouped by single underscores that
stand between two digits; blanks around a number are dropped; a sign may
precede it.  The digits of an integer may be those of any script; in a base
of its own it may have the mark of that base in front.  A decimal is rounded
to the nearest double, half to even.
-/

namespace Conformance.Number

/-- The value of a digit, if it is one in the base. -/
def digit? (base : Nat) (c : Char) : Option Nat :=
  let n := c.toNat
  let value :=
    if 0x30 ≤ n ∧ n ≤ 0x39 then n - 0x30
    else if 0x61 ≤ n ∧ n ≤ 0x7a then n - 0x57
    else if 0x41 ≤ n ∧ n ≤ 0x5a then n - 0x37
    else base
  if value < base then some value else none

/-- Digits in groups, behind those already read; `grouped` says that an
underscore has just been read. -/
def readDigits (base : Nat) : (value : Nat) → (grouped : Bool) → List Char → Option Nat
  | value, false, [] => some value
  | _, true, [] => none
  | value, grouped, c :: cs =>
    if c = '_' then (if grouped then none else readDigits base value true cs)
    else match digit? base c with
      | some d => readDigits base (value * base + d) false cs
      | none => none

/-- Digits in groups.  The first character is a digit. -/
def digits? (base : Nat) : List Char → Option Nat
  | [] => none
  | c :: cs => if c = '_' then none else readDigits base 0 false (c :: cs)

/-- Takes a sign off the front: whether it was a minus, and the rest. -/
def splitSign : List Char → Bool × List Char
  | '+' :: cs => (false, cs)
  | '-' :: cs => (true, cs)
  | cs => (false, cs)

/-- How many decimal digits an integer may have. -/
def longestInteger : Nat := 4300

/-- The sign and the characters of an integer. -/
def integerParts (s : String) : Bool × List Char :=
  splitSign ((Text.trim Text.isBlank s.toList).map Text.plainDigit)

/-- A number under a sign. -/
def withSign (negative : Bool) (n : Nat) : Int := if negative then -(n : Int) else n

/-- An integer in decimal digits. -/
def integer? (s : String) : Option Int :=
  let (negative, cs) := integerParts s
  if longestInteger < (cs.filter (· != '_')).length then none
  else (digits? 10 cs).map (withSign negative)

/-- The base that a mark stands for. -/
def markedBase? (c : Char) : Option Nat :=
  if c = 'x' ∨ c = 'X' then some 16
  else if c = 'o' ∨ c = 'O' then some 8
  else if c = 'b' ∨ c = 'B' then some 2
  else none

/-- Takes a mark off the front of digits in a base, with the underscore behind
it; the base zero is that of the mark, and ten without one, where only zero may
begin with a zero. -/
def splitMark (base : Nat) (cs : List Char) : Option (Nat × List Char) :=
  let unmarked :=
    if base = 0 then
      if cs.head? = some '0' ∧ !cs.all (fun c => c = '0' || c = '_') then none else some (10, cs)
    else some (base, cs)
  match cs with
  | '0' :: c :: rest =>
    match markedBase? c with
    | some marked =>
      if base = 0 ∨ base = marked then
        some (marked, match rest with | '_' :: rest => rest | rest => rest)
      else unmarked
    | none => unmarked
  | _ => unmarked

/-- An integer in a base from 2 to 36, or in the base that its mark tells. -/
def integerIn? (base : Nat) (s : String) : Option Int := do
  let (negative, cs) := integerParts s
  let (base, cs) ← splitMark base cs
  (digits? base cs).map (withSign negative)

/-- The double nearest to `digits · 10 ^ exponent`.  Far outside the range of
doubles the power is not computed. -/
def Decimal.toFloat (d : Decimal) : Float :=
  let size := d.exponent + digitCount d.digits
  if d.digits = 0 ∨ size < -330 then 0.0
  else if 310 < size then 1.0 / 0.0
  else Float.ofScientific d.digits (d.exponent < 0) d.exponent.natAbs

/-- The digits of one part of a decimal, which may be missing: how many there
are and their value. -/
def part? (cs : List Char) : Option (Nat × Nat) :=
  if cs.isEmpty then some (0, 0)
  else (digits? 10 cs).map fun n => ((cs.filter (· != '_')).length, n)

/-- Splits at the first character that is neither a digit nor an underscore. -/
def spanDigits (cs : List Char) : List Char × List Char :=
  cs.span fun c => c = '_' || (digit? 10 c).isSome

/-- An exponent with its mark; nothing at all is the exponent zero. -/
def exponent? : List Char → Option Int
  | [] => some 0
  | c :: cs =>
    if c = 'e' ∨ c = 'E' then
      let (negative, cs) := splitSign cs
      (digits? 10 cs).map fun n => if negative then -(n : Int) else n
    else none

/-- An unsigned decimal: digits before or behind a point, and an exponent. -/
def decimal? (cs : List Char) : Option Decimal := do
  let (whole, rest) := spanDigits cs
  let (places, rest) := match rest with
    | '.' :: rest => spanDigits rest
    | rest => ([], rest)
  let (wholeCount, wholeValue) ← part? whole
  let (placeCount, placeValue) ← part? places
  let exponent ← exponent? rest
  if wholeCount + placeCount = 0 then none
  else some ⟨wholeValue * Nat.pow 10 placeCount + placeValue, exponent - placeCount⟩

/-- A double in decimal, or one of the words for the special values. -/
def float? (s : String) : Option Float :=
  let (negative, cs) := splitSign (Text.trim Text.isBlank s.toList)
  let word := (String.ofList cs).toLower
  let value :=
    if word = "inf" ∨ word = "infinity" then some (1.0 / 0.0)
    else if word = "nan" then some (0.0 / 0.0)
    else (decimal? cs).map Decimal.toFloat
  value.map fun x => if negative then -x else x

end Conformance.Number
