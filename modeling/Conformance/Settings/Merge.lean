import Conformance.Error

/-!
# Conformance.Settings.Merge

Mappings laid over each other.  An entry of the upper one replaces the entry
of its key, except that two mappings under one key are merged in turn; a key
that both have keeps its place, and new keys come last, in their order.

The lower one may also be a list, whose items are then replaced by index.
-/

namespace Conformance.Value

mutual
/-- The value `upper` laid over what stands there already. -/
def overlaid (lower : Option Value) : (upper : Value) → Value
  | dict es =>
    match lower with
    | some (dict bs) => dict (mergeEntries bs es)
    | _ => dict es
  | v => v
/-- The entries of a mapping laid over those of another. -/
def mergeEntries : (lower upper : List (Value × Value)) → List (Value × Value)
  | bs, [] => bs
  | bs, (k, v) :: es => mergeEntries (insert k (overlaid (lookup bs k) v) bs) es
end

/-- An entry laid over a list: the item at its key is replaced, or merged with
if the key is an item as well and both are mappings. -/
def mergeItem (items : List Value) (e : Value × Value) : Except Error (List Value) :=
  match e.1.integer? with
  | none => .error (.intrinsic .type)
  | some i =>
    let place := if i < 0 then i + items.length else i
    match if 0 ≤ place then items[place.toNat]? else none with
    | none => .error (.intrinsic .index)
    | some item =>
      let lower := if items.any fun v => same v e.1 then some item else none
      .ok (items.set place.toNat (overlaid lower e.2))

/-- A mapping laid over a mapping or a list. -/
def merge (lower upper : Value) : Except Error Value :=
  match lower, upper with
  | dict bs, dict es => .ok (dict (mergeEntries bs es))
  | list items, dict es => (es.foldlM mergeItem items).map list
  | _, _ => .error (.intrinsic .member)

theorem merge_dict (bs es : List (Value × Value)) :
    merge (dict bs) (dict es) = .ok (dict (mergeEntries bs es)) := rfl

end Conformance.Value
