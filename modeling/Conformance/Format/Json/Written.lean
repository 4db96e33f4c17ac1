import Conformance.Value.Written

/-!
# Conformance.Format.Json.Written

Values as JSON text on one line, in ASCII alone: other characters are written
by their UTF-16 units.  A value that has no form of its own in JSON is written
as the text that shows it.
-/

namespace Conformance.Json

/-- A unit of UTF-16 as an escape. -/
def escapedUnit (n : Nat) : String := "\\u" ++ Number.Layout.padLeft 4 (String.ofList (Nat.toDigits 16 n))

/-- The escapes of one character. -/
def escaped (c : Char) : String :=
  let n := c.toNat
  if n < 0x10000 then escapedUnit n
  else escapedUnit (0xd800 + (n - 0x10000) / 0x400) ++ escapedUnit (0xdc00 + (n - 0x10000) % 0x400)

/-- A character between quotation marks. -/
def character (c : Char) : String :=
  match c with
  | '"' => "\\\""
  | '\\' => "\\\\"
  | '\n' => "\\n"
  | '\r' => "\\r"
  | '\t' => "\\t"
  | c => if 0x20 ≤ c.toNat ∧ c.toNat < 0x7f then String.singleton c else escaped c

/-- Text between quotation marks. -/
def quoted (s : String) : String := "\"" ++ String.join (s.toList.map character) ++ "\""

/-- Members of an object. -/
def object (members : List (String × String)) : String :=
  "\x7b" ++ ", ".intercalate (members.map fun m => quoted m.1 ++ ": " ++ m.2) ++ "\x7d"

mutual
/-- A value as JSON text. -/
def written : Value → String
  | .nothing => "null"
  | .bool b => if b then "true" else "false"
  | .int n => toString n
  | .str s => quoted s
  | .list items | .tuple items => "[" ++ ", ".intercalate (writtenItems items) ++ "]"
  | v => quoted v.written
/-- Values as JSON texts. -/
def writtenItems : List Value → List String
  | [] => []
  | v :: vs => written v :: writtenItems vs
end

end Conformance.Json
