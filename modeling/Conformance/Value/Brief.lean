import Conformance.Value.Order
import Conformance.Value.Written

/-!
# Conformance.Value.Brief

Values at bounded length, as failure messages quote them.  `Limits` holds
the bounds:

1. containers are shown to a depth of `level`; at the depth below, `...`
   stands for the contents of one that is not empty;
2. a list, tuple or mapping shows its first items or entries up to its
   limit, and `...` for the rest; a mapping's keys are shown in ascending
   order if they have one, else in their own;
3. text, long integers and everything else that is longer than its limit
   keep their two ends with `...` between them.
-/

namespace Conformance.Value

/-- The bounds of a brief text. -/
structure Limits where
  level : Nat
  tuple : Nat
  list : Nat
  dict : Nat
  string : Nat
  long : Nat
  other : Nat

/-- The bounds of every failure message. -/
def messageLimits : Limits := ⟨6, 6, 8, 8, 60, 40, 60⟩

/-- What stands for something left out. -/
def gap : String := "..."

namespace Brief

/-- How many characters are kept at the front of a text cut to a limit. -/
def front (limit : Nat) : Nat := (limit - gap.length) / 2

/-- How many characters are kept at its back. -/
def back (limit : Nat) : Nat := limit - gap.length - front limit

/-- Keeps the two ends of a text that exceeds the limit. -/
def ends (limit : Nat) (s : String) : String :=
  let cs := s.toList
  if cs.length ≤ limit then s
  else
    String.ofList (cs.take (front limit)) ++ gap ++
      String.ofList (cs.drop (cs.length - back limit))

/-- Where the kept back of a text begins.  A text with fewer characters than
that, long by its escapes alone, loses as many from its front as it lacks. -/
def backStart (limit length : Nat) : Nat :=
  if back limit ≤ length then length - back limit else 2 * length - back limit

/-- Quoted text.  It is cut to its two ends before it is quoted and again
after, so that neither its characters nor their escapes exceed the limit. -/
def text (limit : Nat) (s : String) : String :=
  let cs := s.toList
  let whole := Text.quoted (String.ofList (cs.take limit))
  if whole.length ≤ limit then whole
  else
    let kept := cs.take (front limit) ++ cs.drop (backStart limit cs.length)
    let shown := (Text.quoted (String.ofList kept)).toList
    String.ofList (shown.take (front limit)) ++ gap ++
      String.ofList (shown.drop (shown.length - back limit))

/-- The first texts up to a limit, and a gap if there are more of them. -/
def capped (limit count : Nat) (texts : List String) : List String :=
  if limit < count then texts.take limit ++ [gap] else texts.take limit

/-- What is shown of a container below the last level. -/
def closed (count : Nat) : String :=
  if count = 0 then "" else gap

/-- The texts of entries in the order of their keys, if the keys have one. -/
def arranged (entries : List (Value × String)) : List String :=
  ((sortedBy? (·.1) entries).getD entries).map (·.2)

end Brief

mutual
/-- A value at depth `level`. -/
def briefAt (l : Limits) : (level : Nat) → Value → String
  | _, str s => Brief.text l.string s
  | _, int n => Brief.ends l.long (toString n)
  | 0, list items => "[" ++ Brief.closed items.length ++ "]"
  | 0, tuple items => "(" ++ Brief.closed items.length ++ ")"
  | 0, dict entries => "\x7b" ++ Brief.closed entries.length ++ "\x7d"
  | level + 1, list items =>
    "[" ++ ", ".intercalate (Brief.capped l.list items.length (briefItems l level items)) ++ "]"
  | level + 1, tuple items =>
    tupleText (Brief.capped l.tuple items.length (briefItems l level items))
  | level + 1, dict entries =>
    let shown := Brief.arranged (briefEntries l level entries)
    "\x7b" ++ ", ".intercalate (Brief.capped l.dict entries.length shown) ++ "\x7d"
  | _, v => Brief.ends l.other v.written
/-- Each item at a depth. -/
def briefItems (l : Limits) (level : Nat) : List Value → List String
  | [] => []
  | v :: vs => briefAt l level v :: briefItems l level vs
/-- Each key with the text of its entry at a depth. -/
def briefEntries (l : Limits) (level : Nat) : List (Value × Value) → List (Value × String)
  | [] => []
  | (k, v) :: es => (k, briefAt l level k ++ ": " ++ briefAt l level v) :: briefEntries l level es
end

/-- A value as a failure message quotes it. -/
def brief (v : Value) : String :=
  briefAt messageLimits messageLimits.level v

end Conformance.Value
