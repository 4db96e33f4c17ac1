/-!
# Conformance.Text.Case

Capital letters, for words that are compared with ASCII ones whatever their
case.  Besides the ASCII letters two others have an ASCII letter as their
other case: `ı` and `ſ` are small forms of `I` and `S`.  All other characters
stay as they are.
-/

namespace Conformance.Text

/-- The capital form of a letter, where that is an ASCII letter. -/
def upperChar (c : Char) : Char :=
  if c = 'ı' then 'I' else if c = 'ſ' then 'S' else c.toUpper

/-- A word in capital letters. -/
def upper (s : String) : String := s.map upperChar

end Conformance.Text
