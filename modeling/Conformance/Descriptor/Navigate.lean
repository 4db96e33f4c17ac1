import Conformance.Error

/-!
# Conformance.Descriptor.Navigate

Paths into descriptors.  `descriptorAt` follows a path: a name into a
struct, 0 or 1 into a pair, an index below the length into a vector.
`leafPaths` lists the positions that are not composite, in the order of
declaration; a `maybe` is a leaf, and so is a function.
-/

namespace Conformance.Descriptor

/-- One step into a descriptor. -/
def stepInto (d : Descriptor) (s : Segment) : Except Error Descriptor :=
  let refused := .error (.lookup
    ("path segment " ++ s.toValue.written ++ " does not apply to " ++ d.render))
  match d with
  | struct _ fields =>
    match s with
    | .field n =>
      match field? fields n with
      | some e => .ok e
      | none => .error (.lookup (d.render ++ " has no field " ++ Text.quoted n))
    | _ => refused
  | pair _ first second =>
    match s.component? with
    | some side => .ok (if side then second else first)
    | none => refused
  | vector _ length element =>
    match s.integer? with
    | some i => if 0 ≤ i ∧ i < length then .ok element else refused
    | none => refused
  | _ => refused

/-- The descriptor at a path. -/
def descriptorAt (d : Descriptor) : Path → Except Error Descriptor
  | [] => .ok d
  | s :: path =>
    match stepInto d s with
    | .ok e => descriptorAt e path
    | .error error => .error error

/-- Leaves one segment further down. -/
def under (s : Segment) (leaves : List (Path × Descriptor)) : List (Path × Descriptor) :=
  leaves.map fun leaf => (s :: leaf.1, leaf.2)

mutual
/-- The leaves of a descriptor with their paths. -/
def leafPaths : Descriptor → List (Path × Descriptor)
  | struct _ fields => fieldLeafPaths fields
  | pair _ first second => under (.index 0) (leafPaths first) ++ under (.index 1) (leafPaths second)
  | vector _ length element =>
    let leaves := leafPaths element
    (List.range length).flatMap fun (i : Nat) => under (.index i) leaves
  | d => [([], d)]
/-- The leaves of fields. -/
def fieldLeafPaths : List (String × Descriptor) → List (Path × Descriptor)
  | [] => []
  | (n, d) :: fields => under (.field n) (leafPaths d) ++ fieldLeafPaths fields
end

end Conformance.Descriptor
