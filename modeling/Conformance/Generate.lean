import Conformance.Random.Draw
import Conformance.Settings
import Conformance.Validate

/-!
# Conformance.Generate

Values drawn for a descriptor.

* integer kinds — uniform over the range; Number — uniform between the
  bounds of the settings; Boolean — a fair coin;
* String — a length up to the longest allowed, then as many characters of
  `alphabet`; an enum — one of its labels;
* a struct — a mapping of its fields in their order; a pair — a tuple; a
  vector — a list;
* a maybe — nothing with the probability of the settings, else a `just`;
* a function — cannot be drawn.

Whether a function occurs is decided before anything is drawn, so the
outcome does not depend on which arm of a `maybe` is drawn.  `generateAt`
redraws the part of a value at one path and keeps the rest.
-/

namespace Conformance

/-- The characters of an inclusive range of code points. -/
def charRange (low high : Nat) : List Char :=
  (List.range (high + 1 - low)).map fun i => Char.ofNat (low + i)

/-- The characters of generated text: small letters, capital letters, digits,
punctuation and the space. -/
def alphabet : List Char :=
  charRange 0x61 0x7a ++ charRange 0x41 0x5a ++ charRange 0x30 0x39 ++ charRange 0x21 0x2f ++
    charRange 0x3a 0x40 ++ charRange 0x5b 0x60 ++ charRange 0x7b 0x7e ++ [' ']

namespace Descriptor

/-! ## Functions -/

mutual
/-- The first function in a descriptor and its path.  A vector is looked into
at index 0, and a `maybe` adds no segment. -/
def firstFunction? : Descriptor → Option (Path × Descriptor)
  | fn n input output => some ([], fn n input output)
  | struct _ fields => firstFieldFunction? fields
  | pair _ first second =>
    match firstFunction? first with
    | some (path, f) => some (.index 0 :: path, f)
    | none => (firstFunction? second).map fun found => (.index 1 :: found.1, found.2)
  | vector _ _ element => (firstFunction? element).map fun found => (.index 0 :: found.1, found.2)
  | maybe _ inner => firstFunction? inner
  | _ => none
/-- The first function in fields. -/
def firstFieldFunction? : List (String × Descriptor) → Option (Path × Descriptor)
  | [] => none
  | (n, d) :: fields =>
    match firstFunction? d with
    | some (path, f) => some (.field n :: path, f)
    | none => firstFieldFunction? fields
end

/-- Refuses a descriptor that holds a function; `path` is where it stands itself. -/
def ensureGenerable (d : Descriptor) (path : Path) : Except Error Unit :=
  match d.firstFunction? with
  | none => .ok ()
  | some (below, f) => do
    let path := path ++ below
    let place ← path.render
    .error (.unsupported
      ("cannot generate a value for function type " ++ f.render ++ " at " ++ Path.place place) path)

/-! ## Drawing -/

mutual
/-- Draws a value for a descriptor without functions. -/
def sample (s : Sampling) : Descriptor → Draw Value
  | boolean _ => do
    let u ← Draw.unit
    pure (.bool (u < 0.5))
  | string _ => do
    let length ← Draw.between s.patience 0 s.maxStringLength
    let cs ← Draw.times length.toNat (Draw.choose s.patience alphabet)
    pure (.str (String.ofList cs))
  | number _ => do
    let x ← Draw.uniform s.numberMin s.numberMax
    pure (.float x)
  | integer _ _ low high => do
    let i ← Draw.between s.patience low high
    pure (.int i)
  | enum _ labels => do
    let label ← Draw.choose s.patience labels
    pure (.str label)
  | struct _ fields => do
    let entries ← sampleFields s fields
    pure (.dict entries)
  | pair _ first second => do
    let a ← sample s first
    let b ← sample s second
    pure (.tuple [a, b])
  | vector _ length element => do
    let items ← Draw.times length (sample s element)
    pure (.list items)
  | maybe _ inner => do
    let u ← Draw.unit
    if u < s.nothingProbability then pure .nothing
    else do
      let v ← sample s inner
      pure (.just v)
  | fn _ _ _ => throw .unfinished
/-- Draws the entries of a struct, field by field. -/
def sampleFields (s : Sampling) : List (String × Descriptor) → Draw (List (Value × Value))
  | [] => pure []
  | (n, d) :: fields => do
    let v ← sample s d
    let entries ← sampleFields s fields
    pure ((.str n, v) :: entries)
end

/-- Runs a check before drawing. -/
def demand {α : Type} (e : Except Error α) : Draw α :=
  match e with
  | .ok a => pure a
  | .error error => throw (.of error)

/-- Draws a value for a descriptor. -/
def generate (s : Sampling) (d : Descriptor) : Draw Value := do
  demand (d.ensureGenerable [])
  sample s d

/-- Draws one value for each of several descriptors. -/
def generateAll (s : Sampling) : List Descriptor → Draw (List Value)
  | [] => pure []
  | d :: ds => do
    let v ← generate s d
    let vs ← generateAll s ds
    pure (v :: vs)

/-- Draws a value for what has to be a descriptor. -/
def generateFor (s : Sampling) (v : Value) : Draw Value := do
  let d ← demand v.variant
  generate s d

/-- Draws one value for each of several values that have to be descriptors. -/
def generateForAll (s : Sampling) : List Value → Draw (List Value)
  | [] => pure []
  | d :: ds => do
    let v ← generateFor s d
    let vs ← generateForAll s ds
    pure (v :: vs)

/-! ## Redrawing one part -/

/-- The two values of an item that is an entry. -/
def entryOf (item : Value) : Except Error (Value × Value) :=
  match item.items? with
  | some [k, v] => if k.isKey then .ok (k, v) else .error (.intrinsic .type)
  | some _ => .error (.intrinsic .value)
  | none => .error (.intrinsic .type)

/-- A value copied as a mapping: one, or a sequence of entries. -/
def entriesOf (v : Value) : Except Error (List (Value × Value)) :=
  match v with
  | .dict entries => .ok entries
  | v =>
    match v.items? with
    | some items => (items.mapM entryOf).map Value.ofEntries
    | none => .error (.intrinsic .type)

/-- The entries of a value copied as a mapping, the field of a struct under a
name, and the entry there.  Only a mapping can be asked for an entry. -/
def fieldAt (fields : List (String × Descriptor)) (v : Value) (name : String) :
    Except Error (List (Value × Value) × Descriptor × Value) :=
  match v with
  | .dict entries =>
    match field? fields name, Value.lookupText entries name with
    | some d, some w => .ok (entries, d, w)
    | _, _ => .error (.intrinsic .key)
  | v => do
    let _ ← entriesOf v
    .error (.intrinsic (if (field? fields name).isSome then .type else .key))

/-- The items of a value copied as a list, the place an index names among
them, and the item there.  A negative index counts from the back. -/
def itemAt (v : Value) (i : Option Int) : Except Error (List Value × Nat × Value) :=
  match v.items?, i with
  | some items, some i =>
    let place := if i < 0 then i + items.length else i
    match if 0 ≤ place then items[place.toNat]? else none with
    | some w => .ok (items, place.toNat, w)
    | none => .error (.intrinsic .index)
  | _, _ => .error (.intrinsic .type)

/-- Redraws the part of `v` at a path of its descriptor. -/
def generateAt (s : Sampling) : Path → Descriptor → Value → Draw Value
  | [], d, _ => generate s d
  | segment :: path, d, v =>
    let refused : Draw Value := throw (.of (.lookup
      ("path segment " ++ segment.toValue.written ++ " does not apply to " ++ d.render)))
    match d with
    | struct _ fields =>
      match segment with
      | .field name => do
        let (entries, e, w) ← demand (fieldAt fields v name)
        let w ← generateAt s path e w
        pure (.dict (Value.insert (.str name) w entries))
      | _ => refused
    | pair _ first second =>
      match segment.component? with
      | some side => do
        let (items, i, w) ← demand (itemAt v segment.integer?)
        let w ← generateAt s path (if side then second else first) w
        pure (.tuple (items.set i w))
      | none => refused
    | vector _ _ element =>
      match segment.integer? with
      | some i => do
        let (items, i, w) ← demand (itemAt v (some i))
        let w ← generateAt s path element w
        pure (.list (items.set i w))
      | none => refused
    | _ => refused

end Descriptor

end Conformance
