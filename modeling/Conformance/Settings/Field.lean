import Conformance.Error
import Conformance.Number.Reading
import Conformance.Settings

/-!
# Conformance.Settings.Field

What a field of the settings accepts.  Values that mean the same are
accepted for each other, so that settings can come from text:

* an integer — also a boolean, a double without places, and digits with
  grouping underscores and perhaps a point followed by zeros;
* a double — also an integer, a boolean, and a decimal;
* a boolean — also 0 and 1, and the words for them in any case;
* text — also bytes that encode it.

A value that is not accepted is answered by the name of the rule it breaks.
-/

namespace Conformance.Settings.Field

/-- The rules that a value can break. -/
inductive Rule
  | intType | intParsing | intParsingSize | intFromFloat | finiteNumber
  | floatType | floatParsing | boolType | boolParsing | stringType | stringUnicode
  | atLeast | atMost
deriving DecidableEq, Repr

namespace Rule

/-- The name of a rule. -/
def text : Rule → String
  | intType => "int_type"
  | intParsing => "int_parsing"
  | intParsingSize => "int_parsing_size"
  | intFromFloat => "int_from_float"
  | finiteNumber => "finite_number"
  | floatType => "float_type"
  | floatParsing => "float_parsing"
  | boolType => "bool_type"
  | boolParsing => "bool_parsing"
  | stringType => "string_type"
  | stringUnicode => "string_unicode"
  | atLeast => "greater_than_equal"
  | atMost => "less_than_equal"

end Rule

/-- The text that bytes encode. -/
def decoded? (bs : List UInt8) : Option String :=
  String.fromUTF8? ⟨bs.toArray⟩

/-! ## Integers -/

/-- How long a text that is read as an integer may be. -/
def longestInteger : Nat := 4300

/-- Digits with grouping underscores, a sign before and `.0` behind them. -/
def integerOfText (s : String) : Except Rule Int :=
  let cs := Text.trim Text.isWhite s.toList
  let (negative, digits) := Number.splitSign cs
  let (whole, rest) := digits.span (· != '.')
  let isZeros := match rest with
    | [] => true
    | _ :: places => !places.isEmpty && places.all (· == '0')
  if longestInteger < (String.ofList cs).utf8ByteSize then .error .intParsingSize
  else
    match if isZeros then Number.digits? 10 whole else none with
    | some n => .ok (if negative then -(n : Int) else n)
    | none => .error .intParsing

/-- A double without places, within 64 bits. -/
def integerOfFloat (x : Float) : Except Rule Int :=
  match Number.Exact.ofFloat? x with
  | none => .error .finiteNumber
  | some e =>
    if !e.isIntegral then .error .intFromFloat
    else if IntegerKind.int.low < e.truncate ∧ e.truncate ≤ IntegerKind.int.high then .ok e.truncate
    else .error .intParsingSize

/-- An integer. -/
def integer (v : Value) : Except Rule Int :=
  match v with
  | .bool b => .ok (if b then 1 else 0)
  | .int n => .ok n
  | .float x => integerOfFloat x
  | .str s => integerOfText s
  | .bytes bs =>
    match decoded? bs with
    | some s => integerOfText s
    | none => .error .intParsing
  | _ => .error .intType

/-- An integer that is not below a bound. -/
def integerFrom (low : Int) (v : Value) : Except Rule Int := do
  let n ← integer v
  if low ≤ n then .ok n else .error .atLeast

/-- An integer or nothing. -/
def optionalInteger (v : Value) : Except Rule (Option Int) :=
  match v with
  | .nothing => .ok none
  | v => (integer v).map some

/-! ## Doubles -/

/-- A decimal. -/
def floatOfText (s : String) : Except Rule Float :=
  match Number.float? s with
  | some x => .ok x
  | none => .error .floatParsing

/-- A double. -/
def float (v : Value) : Except Rule Float :=
  match v with
  | .bool b => .ok (if b then 1.0 else 0.0)
  | .int n =>
    let x := Float.ofInt n
    if x.isFinite then .ok x else .error .floatType
  | .float x => .ok x
  | .str s => floatOfText s
  | .bytes bs =>
    match decoded? bs with
    | some s => floatOfText s
    | none => .error .floatParsing
  | _ => .error .floatType

/-- A double of the unit interval. -/
def probability (v : Value) : Except Rule Float := do
  let x ← float v
  if !(x ≤ 1.0) then .error .atMost else if !(0.0 ≤ x) then .error .atLeast else .ok x

/-! ## Booleans and text -/

/-- The words for a boolean, in any case. -/
def booleanOfText (s : String) : Except Rule Bool :=
  let word := s.toLower
  if ["1", "true", "t", "yes", "y", "on"].contains word then .ok true
  else if ["0", "false", "f", "no", "n", "off"].contains word then .ok false
  else .error .boolParsing

/-- 0 and 1. -/
def booleanOfInteger (n : Int) : Except Rule Bool :=
  if n = 0 then .ok false else if n = 1 then .ok true else .error .boolParsing

/-- A boolean. -/
def boolean (v : Value) : Except Rule Bool :=
  match v with
  | .bool b => .ok b
  | .int n =>
    if IntegerKind.int.low ≤ n ∧ n ≤ IntegerKind.int.high then booleanOfInteger n
    else .error .boolType
  | .float x =>
    match integerOfFloat x with
    | .ok n => booleanOfInteger n
    | .error _ => .error .boolType
  | .str s => booleanOfText s
  | .bytes bs =>
    match decoded? bs with
    | some s => booleanOfText s
    | none => .error .boolParsing
  | _ => .error .boolType

/-- Text. -/
def text (v : Value) : Except Rule String :=
  match v with
  | .str s => .ok s
  | .bytes bs =>
    match decoded? bs with
    | some s => .ok s
    | none => .error .stringUnicode
  | _ => .error .stringType

end Conformance.Settings.Field
