/-!
# Conformance.Descriptor.Basic

The algebra of type descriptors.  A descriptor says which values have a
shape:

* the primitives `Boolean`, `String`, `Number` and the integer kinds, the
  latter with an inclusive range;
* `enum` — a closed, ordered set of labels;
* `struct` — ordered named fields, no others admitted;
* `pair` — two components of their own types;
* `vector` — a fixed number of items of one type;
* `maybe` — nothing, or just an inner value;
* `fn` — the signature of a function of one argument.

Every descriptor may carry a display name.  The name changes how the
descriptor is written and nothing else: `same` compares structure and does
not look at names.
-/

namespace Conformance

/-- The integer kinds. -/
inductive IntegerKind
  | int | int8 | int16 | int32 | uint8 | uint16 | uint32
deriving DecidableEq, Repr, Inhabited

namespace IntegerKind

/-- The smallest value of the kind. -/
def low : IntegerKind → Int
  | int => -9223372036854775808
  | int8 => -128
  | int16 => -32768
  | int32 => -2147483648
  | uint8 | uint16 | uint32 => 0

/-- The largest value of the kind. -/
def high : IntegerKind → Int
  | int => 9223372036854775807
  | int8 => 127
  | int16 => 32767
  | int32 => 2147483647
  | uint8 => 255
  | uint16 => 65535
  | uint32 => 4294967295

def text : IntegerKind → String
  | int => "Int"
  | int8 => "Int8"
  | int16 => "Int16"
  | int32 => "Int32"
  | uint8 => "Uint8"
  | uint16 => "Uint16"
  | uint32 => "Uint32"

end IntegerKind

/-- The primitive kinds. -/
inductive Kind
  | boolean | string | number
  | integer (kind : IntegerKind)
deriving DecidableEq, Repr, Inhabited

namespace Kind

def text : Kind → String
  | boolean => "Boolean"
  | string => "String"
  | number => "Number"
  | integer kind => kind.text

def all : List Kind :=
  [boolean, string, number, integer .int, integer .int8, integer .int16, integer .int32,
    integer .uint8, integer .uint16, integer .uint32]

/-- The kind written `s`. -/
def ofText? (s : String) : Option Kind :=
  all.find? (·.text == s)

end Kind

/-- A type descriptor.  The first field of each variant is its display name. -/
inductive Descriptor
  | boolean (name : Option String)
  | string (name : Option String)
  | number (name : Option String)
  | integer (name : Option String) (kind : IntegerKind) (low high : Int)
  | enum (name : Option String) (labels : List String)
  | struct (name : Option String) (fields : List (String × Descriptor))
  | pair (name : Option String) (first second : Descriptor)
  | vector (name : Option String) (length : Nat) (element : Descriptor)
  | maybe (name : Option String) (inner : Descriptor)
  | fn (name : Option String) (input output : Descriptor)
deriving Repr, Inhabited

namespace Descriptor

/-- The display name. -/
def name : Descriptor → Option String
  | boolean n | string n | number n | integer n .. | enum n _ | struct n _ | pair n .. | vector n ..
  | maybe n _ | fn n .. => n

/-- The same descriptor under another display name, or under none. -/
def withName (n : Option String) : Descriptor → Descriptor
  | boolean _ => boolean n
  | string _ => string n
  | number _ => number n
  | integer _ kind low high => integer n kind low high
  | enum _ labels => enum n labels
  | struct _ fields => struct n fields
  | pair _ first second => pair n first second
  | vector _ length element => vector n length element
  | maybe _ inner => maybe n inner
  | fn _ input output => fn n input output

/-- An integer kind with its full range. -/
def ofInteger (kind : IntegerKind) : Descriptor :=
  integer none kind kind.low kind.high

/-- The descriptor of a primitive kind, with its full range. -/
def ofKind : Kind → Descriptor
  | .boolean => boolean none
  | .string => string none
  | .number => number none
  | .integer kind => ofInteger kind

/-- The primitive kind and range of a primitive. -/
def primitive? : Descriptor → Option (Kind × Option (Int × Int))
  | boolean _ => some (.boolean, none)
  | string _ => some (.string, none)
  | number _ => some (.number, none)
  | integer _ kind low high => some (.integer kind, some (low, high))
  | _ => none

/-! ## Structural equality -/

mutual
/-- Equality of structure: display names are not compared, at any depth. -/
def same : Descriptor → Descriptor → Bool
  | boolean _, boolean _ => true
  | string _, string _ => true
  | number _, number _ => true
  | integer _ k l h, integer _ k' l' h' => k == k' && l == l' && h == h'
  | enum _ ls, enum _ ls' => ls == ls'
  | struct _ fs, struct _ fs' => sameFields fs fs'
  | pair _ a b, pair _ a' b' => same a a' && same b b'
  | vector _ n e, vector _ n' e' => n == n' && same e e'
  | maybe _ d, maybe _ d' => same d d'
  | fn _ i o, fn _ i' o' => same i i' && same o o'
  | _, _ => false
/-- Equality of field lists: the same names in the same order, with the same structures. -/
def sameFields : List (String × Descriptor) → List (String × Descriptor) → Bool
  | [], [] => true
  | (n, d) :: fs, (n', d') :: fs' => n == n' && same d d' && sameFields fs fs'
  | _, _ => false
end

/-- The first field of a name. -/
def field? (fields : List (String × Descriptor)) (name : String) : Option Descriptor :=
  fields.lookup name

end Descriptor

end Conformance
