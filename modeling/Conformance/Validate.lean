import Conformance.Error

/-!
# Conformance.Validate

Whether a value conforms to a descriptor.  A conforming value is

* Boolean — a boolean;
* String — text;
* Number — an integer, or a double that is finite;
* an integer kind — an integer in the range;
* an enum — one of the labels;
* a struct — a mapping with exactly the declared names as keys, each entry
  conforming to its field;
* a pair — a tuple or list of two conforming items;
* a vector — a tuple or list of exactly that many conforming items;
* a maybe — nothing, or a `just` of a conforming value;
* a function — any function.

No boolean is an integer here.  `validate` stops at the first departure: of
a container first its kind, then undeclared keys or its arity, then its
parts in the order of declaration.  A `maybe` adds no segment to the path.
-/

namespace Conformance

/-- A mismatch in a part, seen from the whole. -/
def Mismatch.under (s : Segment) (m : Mismatch) : Mismatch :=
  { m with path := s :: m.path }

namespace Descriptor

/-- A mismatch at the value itself. -/
def mismatch (d : Descriptor) (v : Value) (reason : String) : Option Mismatch :=
  some ⟨[], d, v, reason⟩

/-- The keys of a mapping that no field declares. -/
def undeclared (fields : List (String × Descriptor)) (entries : List (Value × Value)) :
    List Value :=
  (entries.map (·.1)).filter fun key =>
    match key with
    | .str s => !fields.any (·.1 == s)
    | _ => true

/-- The first mismatch among items, counted from `i`. -/
def firstMismatch (check : Value → Option Mismatch) : (i : Nat) → List Value → Option Mismatch
  | _, [] => none
  | i, v :: vs =>
    match check v with
    | some m => some (m.under (.index i))
    | none => firstMismatch check (i + 1) vs

/-- An arity that differs from the expected one. -/
def arityReason (found expected : Nat) : String :=
  "arity " ++ toString found ++ " != " ++ toString expected

mutual
/-- The first mismatch between a value and a descriptor, none if it conforms. -/
def validate : Descriptor → Value → Option Mismatch
  | boolean n, v =>
    match v with
    | .bool _ => none
    | v => mismatch (boolean n) v "expected a bool"
  | string n, v =>
    match v with
    | .str _ => none
    | v => mismatch (string n) v "expected a str"
  | number n, v =>
    match v with
    | .int _ => none
    | .float x => if x.isFinite then none else mismatch (number n) v "number is not finite"
    | v => mismatch (number n) v "expected a number"
  | integer n kind low high, v =>
    match v with
    | .int i =>
      if low ≤ i ∧ i ≤ high then none
      else mismatch (integer n kind low high) v
        ("out of range [" ++ toString low ++ ", " ++ toString high ++ "]")
    | v => mismatch (integer n kind low high) v "expected an int"
  | enum n labels, v =>
    match v with
    | .str s =>
      if labels.contains s then none else mismatch (enum n labels) v "not one of the declared labels"
    | v => mismatch (enum n labels) v "not one of the declared labels"
  | struct n fields, v =>
    match v with
    | .dict entries =>
      match undeclared fields entries with
      | [] => validateFields fields entries
      | extra => mismatch (struct n fields) v
          ("unexpected field(s) " ++ ", ".intercalate (extra.map Value.written))
    | v => mismatch (struct n fields) v "expected a mapping"
  | pair n first second, v =>
    match v with
    | .tuple [a, b] | .list [a, b] =>
      match validate first a with
      | some m => some (m.under (.index 0))
      | none => (validate second b).map (·.under (.index 1))
    | .tuple items | .list items =>
      mismatch (pair n first second) v (arityReason items.length 2)
    | v => mismatch (pair n first second) v "expected a 2-item tuple"
  | vector n length element, v =>
    match v with
    | .tuple items | .list items =>
      if items.length = length then firstMismatch (fun w => validate element w) 0 items
      else mismatch (vector n length element) v (arityReason items.length length)
    | v => mismatch (vector n length element) v "expected a list"
  | maybe n inner, v =>
    match v with
    | .nothing => none
    | .just w => validate inner w
    | v => mismatch (maybe n inner) v "expected None or Just(...)"
  | fn n input output, v =>
    if v.isFunction then none else mismatch (fn n input output) v "not callable"
/-- The first mismatch among the declared fields of a mapping. -/
def validateFields : List (String × Descriptor) → List (Value × Value) → Option Mismatch
  | [], _ => none
  | (name, d) :: fields, entries =>
    match Value.lookupText entries name with
    | none => some ⟨[.field name], d, .missing, "missing field"⟩
    | some v =>
      match validate d v with
      | some m => some (m.under (.field name))
      | none => validateFields fields entries
end

/-- Whether a value conforms. -/
def conforms (d : Descriptor) (v : Value) : Bool := (d.validate v).isNone

/-- The value itself if it conforms, else the error that tells where it does not. -/
def check (d : Descriptor) (v : Value) : Except Error Value :=
  match d.validate v with
  | none => .ok v
  | some m => .error (.validation m m.describe)

end Descriptor

/-- The descriptor that a value has to be. -/
def Value.variant : Value → Except Error Descriptor
  | .descriptor d => .ok d
  | v => .error (.foreign "TypeError" (some ("not a descriptor variant: " ++ v.written)))

end Conformance
