import Conformance.Value.Basic

/-!
# Conformance.Value.Order

The order of values.  Numbers compare with numbers, text with text and
bytes with bytes; lists compare with lists and tuples with tuples, at the
first place where they differ.  No other two values have an order, and a
double that is not a number is neither before nor after any number.
-/

namespace Conformance.Value

/-- The relation between two values that have an order; inside, `none` for
numbers of which one is not a number. -/
abbrev Relation := Option (Option Ordering)

/-- The relation between two numbers. -/
def orderNumbers (v w : Value) : Relation :=
  match v.numeric?, w.numeric? with
  | some a, some b => some (a.order b)
  | _, _ => none

mutual
/-- The relation between two values, `none` if they have no order. -/
def order : Value → Value → Relation
  | str s, str t => some (some (compare s t))
  | bytes a, bytes b => some (some (compare a b))
  | list xs, list ys => orderItems xs ys
  | tuple xs, tuple ys => orderItems xs ys
  | bool b, w => orderNumbers (bool b) w
  | int n, w => orderNumbers (int n) w
  | float x, w => orderNumbers (float x) w
  | _, _ => none
/-- The relation at the first difference; a list is after its beginnings. -/
def orderItems : List Value → List Value → Relation
  | [], [] => some (some .eq)
  | [], _ :: _ => some (some .lt)
  | _ :: _, [] => some (some .gt)
  | v :: vs, w :: ws => if same v w then orderItems vs ws else order v w
end

/-! ## Sorting by a key -/

/-- Puts an item behind the items whose keys are not after its own. -/
def insertSorted {α : Type} (key : α → Value) (a : α) : List α → Option (List α)
  | [] => some [a]
  | b :: bs => do
    match ← order (key a) (key b) with
    | some .lt => some (a :: b :: bs)
    | _ => (insertSorted key a bs).map (b :: ·)

/-- Items in ascending order of their keys, `none` if two keys have no order. -/
def sortedBy? {α : Type} (key : α → Value) (as : List α) : Option (List α) :=
  as.foldlM (fun bs a => insertSorted key a bs) []

end Conformance.Value
