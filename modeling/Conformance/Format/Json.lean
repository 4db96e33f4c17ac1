import Conformance.Number.Reading
import Conformance.Value.Basic

/-!
# Conformance.Format.Json

Values read from JSON text.  `null`, the booleans and text are themselves; a
number without a fraction or an exponent is an integer, any other a double,
and `NaN`, `Infinity` and `-Infinity` are admitted; arrays are lists, and
objects are mappings in which a later member replaces an earlier one of its
name.  Control characters do not stand in text unescaped, and nothing but
space follows the value.
-/

namespace Conformance.Json

def isSpace (c : Char) : Bool := c = ' ' || c = '\t' || c = '\n' || c = '\r'

def skipSpace (cs : List Char) : List Char := cs.dropWhile isSpace

def isDigit (c : Char) : Bool := (Number.digit? 10 c).isSome

/-! ## Text -/

/-- Four hexadecimal digits. -/
def unit? : List Char → Option (Nat × List Char)
  | a :: b :: c :: d :: cs => (Number.digits? 16 [a, b, c, d]).bind fun n =>
    if [a, b, c, d].contains '_' then none else some (n, cs)
  | _ => none

/-- The character of a code point; one that is no character is replaced. -/
def charOf (n : Nat) : Char :=
  if n.isValidChar then Char.ofNat n else '\uFFFD'

/-- The character behind `\u`, for which two units may be needed. -/
def escapedUnit? (cs : List Char) : Option (Char × List Char) := do
  let (high, rest) ← unit? cs
  if 0xD800 ≤ high ∧ high < 0xDC00 then
    match rest with
    | '\\' :: 'u' :: more =>
      match unit? more with
      | some (low, more) =>
        if 0xDC00 ≤ low ∧ low < 0xE000 then
          some (charOf (0x10000 + (high - 0xD800) * 0x400 + (low - 0xDC00)), more)
        else some (charOf high, rest)
      | none => none
    | _ => some (charOf high, rest)
  else some (charOf high, rest)

/-- What a single escape stands for. -/
def escape? : Char → Option Char
  | '"' => some '"'
  | '\\' => some '\\'
  | '/' => some '/'
  | 'b' => some '\x08'
  | 'f' => some '\x0c'
  | 'n' => some '\n'
  | 'r' => some '\r'
  | 't' => some '\t'
  | _ => none

/-- The text up to the closing mark. -/
def text? : (fuel : Nat) → List Char → Option (List Char × List Char)
  | 0, _ | _, [] => none
  | _ + 1, '"' :: cs => some ([], cs)
  | fuel + 1, '\\' :: 'u' :: cs => do
    let (c, cs) ← escapedUnit? cs
    let (t, cs) ← text? fuel cs
    some (c :: t, cs)
  | fuel + 1, '\\' :: e :: cs => do
    let c ← escape? e
    let (t, cs) ← text? fuel cs
    some (c :: t, cs)
  | fuel + 1, c :: cs =>
    if c.toNat < 0x20 ∨ c = '\\' then none
    else (text? fuel cs).map fun r => (c :: r.1, r.2)

/-! ## Numbers -/

/-- One or more digits. -/
def digits? (cs : List Char) : Option (List Char × List Char) :=
  let (ds, rest) := cs.span isDigit
  if ds.isEmpty then none else some (ds, rest)

/-- A fraction, if one follows. -/
def fraction (cs : List Char) : List Char × List Char :=
  match cs with
  | '.' :: more =>
    match digits? more with
    | some (ds, rest) => ('.' :: ds, rest)
    | none => ([], cs)
  | _ => ([], cs)

/-- An exponent, if one follows. -/
def exponent (cs : List Char) : List Char × List Char :=
  match cs with
  | e :: more =>
    let (sign, more) := match more with
      | '+' :: more => (['+'], more)
      | '-' :: more => (['-'], more)
      | more => ([], more)
    match if e = 'e' ∨ e = 'E' then digits? more else none with
    | some (ds, rest) => (e :: sign ++ ds, rest)
    | none => ([], cs)
  | _ => ([], cs)

/-- The integer part: a zero, or digits that begin with another digit. -/
def whole? : List Char → Option (List Char × List Char)
  | '0' :: cs => some (['0'], cs)
  | cs => digits? cs

/-- A number. -/
def number? (cs : List Char) : Option (Value × List Char) := do
  let (sign, cs) := match cs with
    | '-' :: cs => (['-'], cs)
    | cs => ([], cs)
  let (ds, cs) ← whole? cs
  let (places, cs) := fraction cs
  let (power, cs) := exponent cs
  let written := String.ofList (sign ++ ds ++ places ++ power)
  if places.isEmpty && power.isEmpty then
    (Number.integer? written).map fun n => (.int n, cs)
  else (Number.float? written).map fun x => (.float x, cs)

/-! ## Values -/

/-- The words that are values. -/
def words : List (String × Value) :=
  [("null", .nothing), ("true", .bool true), ("false", .bool false), ("NaN", .float (0.0 / 0.0)),
    ("Infinity", .float (1.0 / 0.0)), ("-Infinity", .float (-1.0 / 0.0))]

/-- One of the words. -/
def word? (cs : List Char) : Option (Value × List Char) :=
  words.findSome? fun w => (w.1.toList.isPrefixOf? cs).map fun rest => (w.2, rest)

mutual
/-- A value at the front. -/
def value? : (fuel : Nat) → List Char → Option (Value × List Char)
  | 0, _ => none
  | fuel + 1, cs =>
    match cs with
    | '"' :: cs => (text? (cs.length + 1) cs).map fun r => (.str (String.ofList r.1), r.2)
    | '[' :: cs =>
      match skipSpace cs with
      | ']' :: cs => some (.list [], cs)
      | cs => (items? fuel cs).map fun r => (.list r.1, r.2)
    | '\x7b' :: cs =>
      match skipSpace cs with
      | '\x7d' :: cs => some (.dict [], cs)
      | cs => (members? fuel cs).map fun r => (.dict (Value.ofEntries r.1), r.2)
    | cs =>
      match word? cs with
      | some r => some r
      | none => number? cs
/-- The items of an array up to its end. -/
def items? : (fuel : Nat) → List Char → Option (List Value × List Char)
  | 0, _ => none
  | fuel + 1, cs => do
    let (v, cs) ← value? fuel (skipSpace cs)
    match skipSpace cs with
    | ',' :: cs => (items? fuel cs).map fun r => (v :: r.1, r.2)
    | ']' :: cs => some ([v], cs)
    | _ => none
/-- The members of an object up to its end. -/
def members? : (fuel : Nat) → List Char → Option (List (Value × Value) × List Char)
  | 0, _ => none
  | fuel + 1, cs =>
    match skipSpace cs with
    | '"' :: cs => do
      let (name, cs) ← text? (cs.length + 1) cs
      match skipSpace cs with
      | ':' :: cs => do
        let (v, cs) ← value? fuel (skipSpace cs)
        let entry := (.str (String.ofList name), v)
        match skipSpace cs with
        | ',' :: cs => (members? fuel cs).map fun r => (entry :: r.1, r.2)
        | '\x7d' :: cs => some ([entry], cs)
        | _ => none
      | _ => none
    | _ => none
end

/-- The value of a text. -/
def read? (s : String) : Option Value :=
  let cs := s.toList
  match value? (2 * cs.length + 2) (skipSpace cs) with
  | some (v, rest) => if (skipSpace rest).isEmpty then some v else none
  | none => none

end Conformance.Json
