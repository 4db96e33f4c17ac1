import Conformance.Descriptor.Basic
import Conformance.Number.Exact

/-!
# Conformance.Value.Basic

The values that descriptors are checked against.  Any value may meet any
descriptor, so one type holds them all: the scalars, text and bytes, lists,
tuples and mappings, the `just` of a `maybe` (its other arm is `nothing`),
descriptors and functions.  `missing` stands where a field was looked for
and is absent.

Two values are compared by `same`:

1. booleans are the integers 0 and 1, and integers and doubles compare by
   their exact values;
2. a list is never a tuple, and both compare item by item;
3. mappings compare as sets of entries, whatever their order;
4. descriptors compare by structure, functions by identity.

A mapping keeps its entries in the order in which the keys first came.
-/

namespace Conformance

/-- The built-in functions. -/
inductive Builtin
  | abs | len | int | str
deriving DecidableEq, Repr, Inhabited

/-- A function as a value.  What a defined function does is looked up under
its handle; the rest is how it presents itself. -/
inductive Callable
  | builtin (function : Builtin)
  | defined (handle : Nat) (name qualifiedName : Option String) (text : String)
deriving DecidableEq, Repr, Inhabited

/-- A value. -/
inductive Value
  | nothing
  | bool (b : Bool)
  | int (n : Int)
  | float (x : Float)
  | str (s : String)
  | bytes (bs : List UInt8)
  | list (items : List Value)
  | tuple (items : List Value)
  | dict (entries : List (Value × Value))
  | just (inner : Value)
  | missing
  | descriptor (d : Descriptor)
  | function (f : Callable)
deriving Repr, Inhabited

namespace Value

/-! ## Views -/

/-- The number a value is; a boolean is an integer. -/
inductive Numeric
  | int (n : Int)
  | float (x : Float)

def numeric? : Value → Option Numeric
  | bool b => some (.int (if b then 1 else 0))
  | int n => some (.int n)
  | float x => some (.float x)
  | _ => none

/-- The integer a value is; a boolean is one. -/
def integer? : Value → Option Int
  | bool b => some (if b then 1 else 0)
  | int n => some n
  | _ => none

/-- What a condition makes of a value: nothing, false, zero and the empty
text, bytes and containers count as false. -/
def truthy : Value → Bool
  | nothing => false
  | bool b => b
  | int n => n != 0
  | float x => !(x == 0)
  | str s => !s.isEmpty
  | bytes bs => !bs.isEmpty
  | list items | tuple items => !items.isEmpty
  | dict entries => !entries.isEmpty
  | _ => true

def isFunction : Value → Bool
  | function _ => true
  | _ => false

/-! ## Comparison -/

/-- Compares two numbers by their exact values, `none` if one is not a number. -/
def Numeric.order : Numeric → Numeric → Option Ordering
  | int n, int m => some (compare n m)
  | int n, float x => Number.compareIntFloat n x
  | float x, int n => (Number.compareIntFloat n x).map Ordering.swap
  | float x, float y =>
    if x < y then some .lt else if y < x then some .gt else if x == y then some .eq else none

/-- Whether two scalars are the same number. -/
def sameNumber (v w : Value) : Bool :=
  match v.numeric?, w.numeric? with
  | some a, some b => a.order b == some .eq
  | _, _ => false

mutual
/-- Equality of values. -/
def same : Value → Value → Bool
  | nothing, nothing => true
  | str s, str t => s == t
  | bytes a, bytes b => a == b
  | list xs, list ys => sameItems xs ys
  | tuple xs, tuple ys => sameItems xs ys
  | dict es, dict fs => es.length == fs.length && entriesIn es fs
  | just v, just w => same v w
  | missing, missing => true
  | descriptor d, descriptor e => d.same e
  | function f, function g => f == g
  | bool b, w => sameNumber (bool b) w
  | int n, w => sameNumber (int n) w
  | float x, w => sameNumber (float x) w
  | _, _ => false
/-- Equality item by item. -/
def sameItems : List Value → List Value → Bool
  | [], [] => true
  | v :: vs, w :: ws => same v w && sameItems vs ws
  | _, _ => false
/-- Whether every entry occurs among others. -/
def entriesIn : List (Value × Value) → List (Value × Value) → Bool
  | [], _ => true
  | (k, v) :: es, fs => (fs.any fun f => same k f.1 && same v f.2) && entriesIn es fs
end

instance : BEq Value := ⟨same⟩

/-! ## Mappings -/

/-- The value under a key. -/
def lookup (entries : List (Value × Value)) (key : Value) : Option Value :=
  (entries.find? fun e => same e.1 key).map (·.2)

/-- The value under a textual key. -/
def lookupText (entries : List (Value × Value)) (key : String) : Option Value :=
  lookup entries (str key)

/-- Sets an entry: a key that is there keeps its place. -/
def insert (key value : Value) : List (Value × Value) → List (Value × Value)
  | [] => [(key, value)]
  | (k, v) :: es => if same k key then (k, value) :: es else (k, v) :: insert key value es

/-- Entries one after the other, a later one under the same key replacing
the value of the earlier. -/
def ofEntries (entries : List (Value × Value)) : List (Value × Value) :=
  entries.foldl (fun es e => insert e.1 e.2 es) []

mutual
/-- Whether a value can be a key: lists and mappings cannot, nor what holds one. -/
def isKey : Value → Bool
  | list _ | dict _ => false
  | tuple items => areKeys items
  | just v => isKey v
  | _ => true
/-- Whether all of some values can be keys. -/
def areKeys : List Value → Bool
  | [] => true
  | v :: vs => isKey v && areKeys vs
end

/-! ## Iteration -/

/-- What a value yields when it is gone through: items, keys, characters or
bytes.  Other values cannot be gone through. -/
def items? : Value → Option (List Value)
  | list items | tuple items => some items
  | dict entries => some (entries.map (·.1))
  | str s => some (s.toList.map fun c => str (String.singleton c))
  | bytes bs => some (bs.map fun b => int b.toNat)
  | _ => none

end Value

end Conformance
