import Conformance.Text.Printable

/-!
# Conformance.Text.Quoted

Text and bytes between quotation marks, as values are written:

1. the mark is an apostrophe, unless the text holds an apostrophe and no
   quotation mark, in which case it is a quotation mark;
2. the mark itself and the backslash are written after a backslash;
3. tab, line feed and carriage return are `\t`, `\n`, `\r`;
4. any other character that is not printable is `\xNN`, `\uNNNN` or
   `\UNNNNNNNN`, whichever is the shortest that holds its code point.

Bytes follow the same rules with a leading `b`; a byte outside the visible
ASCII range is always `\xNN`.
-/

namespace Conformance.Text

def apostrophe : Char := '\x27'

def quotationMark : Char := '\x22'

/-- The mark that encloses `cs` (rule 1). -/
def markFor (cs : List Char) : Char :=
  if cs.contains apostrophe && !cs.contains quotationMark then quotationMark else apostrophe

/-- The lower-case hexadecimal digits of `n`, the last `width` of them. -/
def hex : (width : Nat) → (n : Nat) → List Char
  | 0, _ => []
  | width + 1, n => hex width (n / 16) ++ [Nat.digitChar (n % 16)]

/-- An escape by code point, in the shortest form that holds it (rule 4). -/
def escapeCode (n : Nat) : List Char :=
  if n < 0x100 then '\\' :: 'x' :: hex 2 n
  else if n < 0x10000 then '\\' :: 'u' :: hex 4 n
  else '\\' :: 'U' :: hex 8 n

/-- One character between two marks (rules 2 to 4), where `plain` says which
characters stand for themselves. -/
def escapeChar (plain : Char → Bool) (mark c : Char) : List Char :=
  if c = mark ∨ c = '\\' then ['\\', c]
  else if c = '\t' then ['\\', 't']
  else if c = '\n' then ['\\', 'n']
  else if c = '\r' then ['\\', 'r']
  else if plain c then [c]
  else escapeCode c.toNat

def enclose (plain : Char → Bool) (cs : List Char) : List Char :=
  let mark := markFor cs
  mark :: cs.flatMap (escapeChar plain mark) ++ [mark]

/-- Text between quotation marks. -/
def quoted (s : String) : String :=
  String.ofList (enclose isPrintable s.toList)

/-- Bytes between quotation marks, after a `b`. -/
def quotedBytes (bytes : List UInt8) : String :=
  String.ofList ('b' :: enclose (fun c => 0x20 ≤ c.toNat && c.toNat < 0x7f)
    (bytes.map fun b => Char.ofNat b.toNat))

end Conformance.Text
