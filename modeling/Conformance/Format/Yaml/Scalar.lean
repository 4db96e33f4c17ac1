import Conformance.Number.Reading
import Conformance.Value.Basic

/-!
# Conformance.Format.Yaml.Scalar

What plain scalars stand for, by the rules of version 1.1:

* nothing — the empty text, `~` and `null`;
* a boolean — `yes`, `no`, `true`, `false`, `on`, `off`;
* a double — digits with a point, with an exponent only if that is signed,
  in base 60 with colons; `.inf` and `.nan`;
* an integer — decimal, `0x`, `0b`, octal after a zero, base 60 with colons.

The words may be capitalised or in capitals throughout.  Digits may hold
underscores.  Everything else is text.
-/

namespace Conformance.Yaml

/-- A word as it is, capitalised, and in capitals. -/
def spellings (word : String) : List String := [word, word.capitalize, word.toUpper]

def isSpelling (s : String) (words : List String) : Bool :=
  words.any fun w => (spellings w).contains s

def boolean? (s : String) : Option Bool :=
  if isSpelling s ["yes", "true", "on"] then some true
  else if isSpelling s ["no", "false", "off"] then some false
  else none

def isNothing (s : String) : Bool := s.isEmpty || s = "~" || isSpelling s ["null"]

/-- Whether a character is an underscore or a digit of the base. -/
def isPlace (base : Nat) (c : Char) : Bool := c = '_' || (Number.digit? base c).isSome

def isDigit (c : Char) : Bool := (Number.digit? 10 c).isSome

/-- The number that digits write, underscores left out. -/
def number? (base : Nat) (cs : List Char) : Option Nat :=
  Number.digits? base (cs.filter (· != '_'))

/-- Splits at a character. -/
def splitAt (mark : Char) (cs : List Char) : List (List Char) :=
  cs.foldr (fun c parts =>
    match parts with
    | part :: parts => if c = mark then [] :: part :: parts else (c :: part) :: parts
    | [] => [[]]) [[]]

/-- Whether digits write a part of a number in base 60 after the first: below
60, with or without a leading zero. -/
def isSixtieth (cs : List Char) : Bool :=
  match cs with
  | [a] => isDigit a
  | [a, b] => '0' ≤ a && a ≤ '5' && isDigit b
  | _ => false

/-- The whole part of a number in base 60: two or more parts between colons. -/
def sixtieths? (first : Char → Bool) (cs : List Char) : Option Nat :=
  match splitAt ':' cs with
  | [] | [_] => none
  | head :: parts =>
    if head.head?.any first && head.all (isPlace 10) && parts.all isSixtieth then do
      let n ← number? 10 head
      parts.foldlM (fun n part => (number? 10 part).map (60 * n + ·)) n
    else none

/-- An unsigned integer. -/
def natural? : List Char → Option Nat
  | '0' :: 'b' :: ds => if ds.all (isPlace 2) then number? 2 ds else none
  | '0' :: 'x' :: ds => if ds.all (isPlace 16) then number? 16 ds else none
  | ['0'] => some 0
  | '0' :: ds => if ds.all (isPlace 8) then number? 8 ('0' :: ds) else none
  | cs =>
    if cs.head?.any isDigit && cs.all (isPlace 10) then number? 10 cs
    else sixtieths? (fun c => isDigit c && c != '0') cs

/-- An integer. -/
def integer? (cs : List Char) : Option Int :=
  let (negative, cs) := Number.splitSign cs
  (natural? cs).map fun n => if negative then -(n : Int) else n

/-- Whether an exponent follows, with its sign, or nothing. -/
def isExponent : List Char → Bool
  | [] => true
  | e :: sign :: ds =>
    (e = 'e' || e = 'E') && (sign = '+' || sign = '-') && !ds.isEmpty && ds.all isDigit
  | _ => false

/-- Whether an unsigned decimal with a point is written. -/
def isDecimal (signed : Bool) (cs : List Char) : Bool :=
  let (whole, rest) := cs.span (isPlace 10)
  match rest with
  | '.' :: rest =>
    let (places, rest) := rest.span (isPlace 10)
    isExponent rest &&
      (if whole.isEmpty then !signed && places.head?.any isDigit else whole.head?.any isDigit)
  | _ => false

/-- A double in base 60, with places in base 10 after its last part. -/
def sixtiethsFloat? (cs : List Char) : Option Float :=
  let (front, places) := cs.span (· != '.')
  match places with
  | '.' :: ds =>
    if ds.all (isPlace 10) && front.contains ':' then do
      let _ ← sixtieths? isDigit front
      let parts ← (splitAt ':' front).mapM (number? 10)
      let last ← Number.float? (String.ofList
        ((splitAt ':' front).getLast?.getD [] ++ '.' :: ds.filter (· != '_')))
      let (sum, _) := (parts.dropLast.reverse).foldl
        (fun (acc : Float × Nat) n => (acc.1 + Float.ofNat n * Float.ofNat acc.2, 60 * acc.2))
        (0.0 + last, 60)
      some sum
    else none
  | _ => none

/-- A double. -/
def float? (cs : List Char) : Option Float :=
  let (negative, body) := Number.splitSign cs
  let signed := body.length < cs.length
  let size :=
    if (spellings "inf").any (fun w => body = '.' :: w.toList) then some (1.0 / 0.0)
    else if !signed && [".nan", ".NaN", ".NAN"].contains (String.ofList body) then
      some (0.0 / 0.0)
    else if isDecimal signed body then
      Number.float? (String.ofList (body.filter (· != '_')))
    else sixtiethsFloat? body
  size.map fun x => if negative then -x else x

/-- What a plain scalar stands for. -/
def plainValue (s : String) : Value :=
  match boolean? s, float? s.toList, integer? s.toList with
  | some b, _, _ => .bool b
  | none, some x, _ => .float x
  | none, none, some n => .int n
  | none, none, none => if isNothing s then .nothing else .str s

end Conformance.Yaml
