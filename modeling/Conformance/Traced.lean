import Conformance.Value.Arithmetic

/-!
# Conformance.Traced

Values together with where they come from.  Declared code passes objects
around: an argument it hands on untouched, or a part it takes out of one, is
still the same object, while what an operation makes is a new one.  A
`Traced` value carries that knowledge through evaluation; `value` forgets it.

* `whole v o` — the value `v`, all of whose parts come from where it comes from;
* the other forms — containers made during evaluation out of traced parts.
-/

namespace Conformance

/-- The origin of a part. -/
def Origin.part (s : Step) : Origin → Origin
  | argument position steps => argument position (steps ++ [s])
  | given => given
  | made => made

/-- A value and where it comes from. -/
inductive Traced
  | whole (v : Value) (origin : Origin)
  | list (items : List Traced)
  | tuple (items : List Traced)
  | dict (entries : List (Value × Traced))
  | just (inner : Traced)
deriving Repr, Inhabited

namespace Traced

mutual
/-- The value alone. -/
def value : Traced → Value
  | whole v _ => v
  | list items => .list (values items)
  | tuple items => .tuple (values items)
  | dict entries => .dict (entryValues entries)
  | just inner => .just (value inner)
/-- The values of items. -/
def values : List Traced → List Value
  | [] => []
  | t :: ts => value t :: values ts
/-- The values of entries. -/
def entryValues : List (Value × Traced) → List (Value × Value)
  | [] => []
  | (k, t) :: es => (k, value t) :: entryValues es
end

/-- Where the object comes from. -/
def origin : Traced → Origin
  | whole _ o => o
  | _ => .made

/-- A new object. -/
def fresh (v : Value) : Traced := whole v .made

/-- The arguments of a call, each known by its position. -/
def arguments (vs : List Value) : List Traced :=
  vs.zipIdx.map fun v => whole v.1 (.argument v.2 [])

/-! ## Parts -/

/-- The part under a key or at an index. -/
def index (t : Traced) (k : Value) : Except Error Traced :=
  match t with
  | whole v o => (v.index k).map fun w => whole w (o.part (.key k))
  | list items | tuple items => do Value.itemOf items (← Value.asIndex k)
  | dict entries => Value.entryAt entries k
  | just _ => .error (.intrinsic .type)

/-- The value inside a `just`. -/
def unwrap : Traced → Except Error Traced
  | whole (.just v) o => .ok (whole v (o.part .inner))
  | just t => .ok t
  | _ => .error (.intrinsic .member)

/-- The objects gone through in a value. -/
def items? : Traced → Option (List Traced)
  | list items | tuple items => some items
  | whole (.list items) o | whole (.tuple items) o =>
    some (items.zipIdx.map fun v => whole v.1 (o.part (.key (.int v.2))))
  | t => t.value.items?.map fun vs => vs.map fresh

/-! ## Operations -/

/-- A sum.  What is joined to nothing at all stays the object it is, and a
list or tuple keeps the objects it holds. -/
def add (a b : Traced) : Except Error Traced :=
  match a.value, b.value with
  | .str s, .str t => .ok (if s.isEmpty then b else if t.isEmpty then a else fresh (.str (s ++ t)))
  | .tuple xs, .tuple ys =>
    if xs.isEmpty then .ok b
    else if ys.isEmpty then .ok a
    else .ok (tuple (a.items?.getD [] ++ b.items?.getD []))
  | .list _, .list _ => .ok (list (a.items?.getD [] ++ b.items?.getD []))
  | v, w => (v.add w).map fresh

/-- A product.  Text or a tuple taken once stays the object it is. -/
def mul (a b : Traced) : Except Error Traced :=
  match a.value, b.value with
  | .str s, .int 1 => .ok (whole (.str s) a.origin)
  | .int 1, .str s => .ok (whole (.str s) b.origin)
  | .tuple _, .int 1 => .ok a
  | .int 1, .tuple _ => .ok b
  | .list _, .int n => .ok (list (Value.repeatList n (a.items?.getD [])))
  | .int n, .list _ => .ok (list (Value.repeatList n (b.items?.getD [])))
  | v, w => (v.mul w).map fresh

/-- The first object that no later one surpasses in the comparison. -/
def extreme (c : Value.Comparison) : (best : Traced) → List Traced → Except Error Traced
  | best, [] => .ok best
  | best, t :: ts => do
    extreme c (if ← t.value.compareBy c best.value then t else best) ts

/-- The least or greatest of several objects, or of those gone through in a
single one. -/
def extremeOf (c : Value.Comparison) (ts : List Traced) : Except Error Traced :=
  match ts with
  | [t] =>
    match t.items? with
    | some (t :: ts) => extreme c t ts
    | some [] => .error (.intrinsic .value)
    | none => .error (.intrinsic .type)
  | t :: ts => extreme c t ts
  | [] => .error (.intrinsic .type)

/-- The sum of what is gone through in a value. -/
def sum (t : Traced) : Except Error Value :=
  match t.value.items? with
  | some vs => vs.foldlM Value.add (.int 0)
  | none => .error (.intrinsic .type)

/-- The text of a value; text stays the object it is. -/
def toText (t : Traced) : Traced :=
  match t.value with
  | .str _ => t
  | v => fresh (.str v.text)

/-- A mapping from keys and values in turn. -/
def ofPairs : List Traced → Except Error (List (Value × Traced))
  | [] => .ok []
  | k :: v :: ts => do
    let key := k.value
    if key.isKey then
      let es ← ofPairs ts
      pure ((key, v) :: es)
    else .error (.intrinsic .type)
  | [_] => .error (.intrinsic .value)

/-- Sets an entry: a key that is there keeps its place. -/
def insert (key : Value) (t : Traced) : List (Value × Traced) → List (Value × Traced)
  | [] => [(key, t)]
  | (k, u) :: es => if k.same key then (k, t) :: es else (k, u) :: insert key t es

/-- A mapping of entries one after the other. -/
def ofEntries (entries : List (Value × Traced)) : Traced :=
  dict (entries.foldl (fun es e => insert e.1 e.2 es) [])

end Traced

/-- What a built-in function makes of its arguments. -/
def Builtin.apply (f : Builtin) (args : List Traced) : Except Error Traced :=
  match f, args with
  | .abs, [t] =>
    match t.value with
    | .int n => if 0 ≤ n then .ok t else .ok (.fresh (.int (-n)))
    | v => v.magnitude.map .fresh
  | .len, [t] => t.value.length.map fun n => .fresh (.int n)
  | .int, [] => .ok (.fresh (.int 0))
  | .int, [t] =>
    match t.value with
    | .int _ => .ok t
    | v => v.toInteger.map fun n => .fresh (.int n)
  | .int, [t, base] =>
    match t.value, base.value.integer? with
    | .str s, some base =>
      if base = 0 ∨ (2 ≤ base ∧ base ≤ 36) then
        match Number.integerIn? base.toNat s with
        | some n => .ok (.fresh (.int n))
        | none => .error (.intrinsic .value)
      else .error (.intrinsic .value)
    | _, _ => .error (.intrinsic .type)
  | .str, [] => .ok (.fresh (.str ""))
  | .str, [t] => .ok t.toText
  | _, _ => .error (.intrinsic .type)

end Conformance
