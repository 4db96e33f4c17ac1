import Conformance.Error
import Conformance.Value.Order
import Conformance.Number.Reading

/-!
# Conformance.Value.Arithmetic

The operations of declared code on values.

* `+ - * %` on numbers: integers stay exact, one double makes the result a
  double, a remainder takes the sign of the divisor;
* `+` joins two texts, bytes, lists or tuples, and `*` repeats one as often
  as an integer says, not at all if that is negative;
* `index` looks an entry or an item up, a negative index counting from the
  back;
* `contains` asks for a key, an item, or a stretch of text or bytes.

Operands of other kinds have no answer.
-/

namespace Conformance.Value

/-- The double nearest to an integer, unless it exceeds all of them. -/
def toFloat (n : Int) : Except Error Float :=
  let x := Float.ofInt n
  if x.isFinite then .ok x else .error (.intrinsic .overflow)

/-- A number as a double. -/
def Numeric.toFloat : Numeric → Except Error Float
  | int n => Value.toFloat n
  | float x => .ok x

/-- An operation on two numbers: on integers, and on doubles. -/
def onNumbers (ints : Int → Int → Except Error Int) (floats : Float → Float → Except Error Float)
    (v w : Value) : Except Error Value :=
  match v.numeric?, w.numeric? with
  | some (.int n), some (.int m) => (ints n m).map Value.int
  | some a, some b => do
    let x ← a.toFloat
    let y ← b.toFloat
    (floats x y).map Value.float
  | _, _ => .error (.intrinsic .type)

def sub : Value → Value → Except Error Value :=
  onNumbers (fun n m => .ok (n - m)) (fun x y => .ok (x - y))

/-- The remainder with the sign of the divisor. -/
def rem : Value → Value → Except Error Value :=
  onNumbers
    (fun n m => if m = 0 then .error (.intrinsic .zeroDivision) else .ok (n.fmod m))
    (fun x y => if y == 0 then .error (.intrinsic .zeroDivision) else .ok (Number.floorMod x y))

/-- A sum, or two sequences of one kind joined. -/
def add (v w : Value) : Except Error Value :=
  match v, w with
  | str s, str t => .ok (str (s ++ t))
  | bytes a, bytes b => .ok (bytes (a ++ b))
  | list xs, list ys => .ok (list (xs ++ ys))
  | tuple xs, tuple ys => .ok (tuple (xs ++ ys))
  | v, w => onNumbers (fun n m => .ok (n + m)) (fun x y => .ok (x + y)) v w

/-- A list several times over. -/
def repeatList {α : Type} (count : Int) (xs : List α) : List α :=
  (List.replicate count.toNat xs).flatten

/-- A sequence repeated. -/
def repeated? (v : Value) (count : Int) : Option Value :=
  match v with
  | str s => some (str (String.ofList (repeatList count s.toList)))
  | bytes bs => some (bytes (repeatList count bs))
  | list xs => some (list (repeatList count xs))
  | tuple xs => some (tuple (repeatList count xs))
  | _ => none

/-- A product, or a sequence repeated. -/
def mul (v w : Value) : Except Error Value :=
  match w.integer? >>= v.repeated?, v.integer? >>= w.repeated? with
  | some r, _ | none, some r => .ok r
  | none, none => onNumbers (fun n m => .ok (n * m)) (fun x y => .ok (x * y)) v w

/-- How many items, entries, characters or bytes a value has. -/
def length (v : Value) : Except Error Nat :=
  match v with
  | str s => .ok s.length
  | bytes bs => .ok bs.length
  | list xs | tuple xs => .ok xs.length
  | dict es => .ok es.length
  | _ => .error (.intrinsic .type)

/-- The item at an index, counted from the back if negative. -/
def itemOf {α : Type} (xs : List α) (i : Int) : Except Error α :=
  match CounterExample.pick? xs i with
  | some x => .ok x
  | none => .error (.intrinsic .index)

/-- An index: an integer or a boolean. -/
def asIndex (k : Value) : Except Error Int :=
  match k.integer? with
  | some i => .ok i
  | none => .error (.intrinsic .type)

/-- The entry under a key. -/
def entryAt {α : Type} (entries : List (Value × α)) (k : Value) : Except Error α :=
  if k.isKey then
    match entries.find? fun e => same e.1 k with
    | some e => .ok e.2
    | none => .error (.intrinsic .key)
  else .error (.intrinsic .type)

/-- The part of a value under a key or at an index. -/
def index (v k : Value) : Except Error Value :=
  match v with
  | dict entries => entryAt entries k
  | list xs | tuple xs => do itemOf xs (← asIndex k)
  | str s => do
    let c ← itemOf s.toList (← asIndex k)
    pure (str (String.singleton c))
  | bytes bs => do
    let b ← itemOf bs (← asIndex k)
    pure (int b.toNat)
  | _ => .error (.intrinsic .type)

/-- Whether a list occurs in another as a stretch. -/
def occursIn {α : Type} [BEq α] (xs : List α) : List α → Bool
  | [] => xs.isEmpty
  | y :: ys => xs.isPrefixOf (y :: ys) || occursIn xs ys

/-- Whether `v` is a key, an item or a stretch of `w`. -/
def contains (v w : Value) : Except Error Bool :=
  match w with
  | list xs | tuple xs => .ok (xs.any fun x => same x v)
  | dict entries =>
    if v.isKey then .ok (entries.any fun e => same e.1 v) else .error (.intrinsic .type)
  | str t =>
    match v with
    | str s => .ok (occursIn s.toList t.toList)
    | _ => .error (.intrinsic .type)
  | bytes bs =>
    match v with
    | bytes as => .ok (occursIn as bs)
    | v =>
      match v.integer? with
      | some n =>
        if 0 ≤ n ∧ n < 256 then .ok (bs.any fun b => (b.toNat : Int) == n)
        else .error (.intrinsic .value)
      | none => .error (.intrinsic .type)
  | _ => .error (.intrinsic .type)

/-- The four order relations. -/
inductive Comparison
  | lt | le | gt | ge
deriving DecidableEq, Repr, Inhabited

/-- Whether a comparison holds.  None holds of numbers without a relation. -/
def Comparison.holds : Comparison → Option Ordering → Bool
  | lt, some .lt => true
  | le, some .lt | le, some .eq => true
  | gt, some .gt => true
  | ge, some .gt | ge, some .eq => true
  | _, _ => false

/-- Compares two values. -/
def compareBy (c : Comparison) (v w : Value) : Except Error Bool :=
  match order v w with
  | some o => .ok (c.holds o)
  | none => .error (.intrinsic .type)

/-! ## Built-in functions -/

/-- The magnitude of a number. -/
def magnitude (v : Value) : Except Error Value :=
  match v.numeric? with
  | some (.int n) => .ok (int n.natAbs)
  | some (.float x) => .ok (float x.abs)
  | none => .error (.intrinsic .type)

/-- The integer a value stands for: a number without its places, or an
integer in decimal. -/
def toInteger (v : Value) : Except Error Int :=
  match v with
  | bool b => .ok (if b then 1 else 0)
  | int n => .ok n
  | float x =>
    match Number.Exact.ofFloat? x with
    | some e => .ok e.truncate
    | none => .error (.intrinsic (if x.isNaN then .value else .overflow))
  | str s => fromText s
  | bytes bs => fromText (String.ofList (bs.map fun b => Char.ofNat b.toNat))
  | _ => .error (.intrinsic .type)
where
  fromText (s : String) : Except Error Int :=
    match Number.integer? s with
    | some n => .ok n
    | none => .error (.intrinsic .value)

end Conformance.Value
