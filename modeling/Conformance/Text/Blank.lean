/-!
# Conformance.Text.Blank

The two classes of space around numbers and at the ends of lines.

* `isWhite` — the White_Space property of the character database.
* `isBlank` — the same with the four information separators U+001C to
  U+001F, which end a line as well.
-/

namespace Conformance.Text

/-- The White_Space property. -/
def isWhite (c : Char) : Bool :=
  let n := c.toNat
  (0x09 ≤ n && n ≤ 0x0d) || n == 0x20 || n == 0x85 || n == 0xa0 || n == 0x1680 ||
    (0x2000 ≤ n && n ≤ 0x200a) || n == 0x2028 || n == 0x2029 || n == 0x202f || n == 0x205f ||
    n == 0x3000

/-- White space or an information separator. -/
def isBlank (c : Char) : Bool :=
  isWhite c || (0x1c ≤ c.toNat && c.toNat ≤ 0x1f)

/-- Drops the characters of a class from the end. -/
def trimEnd (drop : Char → Bool) (cs : List Char) : List Char :=
  (cs.reverse.dropWhile drop).reverse

/-- Drops the characters of a class from both ends. -/
def trim (drop : Char → Bool) (cs : List Char) : List Char :=
  trimEnd drop (cs.dropWhile drop)

end Conformance.Text
