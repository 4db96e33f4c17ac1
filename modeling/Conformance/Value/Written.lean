import Conformance.Value.Basic
import Conformance.Descriptor.Written
import Conformance.Number.Written

/-!
# Conformance.Value.Written

Values in full, as they are shown in messages:

* `None`, `True`, `False`, integers in decimal, doubles by their shortest
  digits, text and bytes in quotation marks;
* `[a, b]`, `(a, b)`, `(a,)`, `{k: v}` with the entries in their order;
* `Just(v)` and `<missing>`;
* descriptors in constructor form, functions by their own text.
-/

namespace Conformance

namespace Callable

/-- How a function is shown. -/
def written : Callable → String
  | builtin .abs => "<built-in function abs>"
  | builtin .len => "<built-in function len>"
  | builtin .int => "<class 'int'>"
  | builtin .str => "<class 'str'>"
  | defined _ _ _ text => text

def builtinName : Builtin → String
  | .abs => "abs"
  | .len => "len"
  | .int => "int"
  | .str => "str"

/-- The name a function was given. -/
def name : Callable → Option String
  | builtin f => some (builtinName f)
  | defined _ name _ _ => name

def qualifiedName : Callable → Option String
  | builtin f => some (builtinName f)
  | defined _ _ qualifiedName _ => qualifiedName

/-- The qualified name, or how the function is shown if that is absent or empty. -/
def label (f : Callable) : String :=
  match f.qualifiedName with
  | some n => if n.isEmpty then f.written else n
  | none => f.written

end Callable

namespace Value

/-- Doubles are positional from `1e-4` up to but not including `1e16`;
integral ones keep a zero behind the point, and an exponent has a sign and
at least two digits. -/
def floatLayout : Number.Layout := ⟨-4, 16, ".0", "e", 2, "nan", "inf"⟩

mutual
/-- A value in full. -/
def written : Value → String
  | nothing => "None"
  | bool b => if b then "True" else "False"
  | int n => toString n
  | float x => floatLayout.write x
  | str s => Text.quoted s
  | bytes bs => Text.quotedBytes bs
  | list items => "[" ++ ", ".intercalate (writtenItems items) ++ "]"
  | tuple items => tupleText (writtenItems items)
  | dict entries => "\x7b" ++ ", ".intercalate (writtenEntries entries) ++ "\x7d"
  | just v => "Just(" ++ written v ++ ")"
  | missing => "<missing>"
  | descriptor d => d.written
  | function f => f.written
/-- Each item in full. -/
def writtenItems : List Value → List String
  | [] => []
  | v :: vs => written v :: writtenItems vs
/-- Each entry in full, the key before a colon. -/
def writtenEntries : List (Value × Value) → List String
  | [] => []
  | (k, v) :: es => (written k ++ ": " ++ written v) :: writtenEntries es
end

/-- A value inside running text: text as it is, a descriptor rendered,
anything else in full. -/
def text : Value → String
  | str s => s
  | descriptor d => d.render
  | v => v.written

theorem writtenItems_eq_map (vs : List Value) : writtenItems vs = vs.map written := by
  induction vs with
  | nil => rfl
  | cons v vs ih => simp [writtenItems, ih]

end Value

end Conformance
