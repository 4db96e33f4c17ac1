import Conformance.Descriptor.Render
import Conformance.Text.Quoted

/-!
# Conformance.Descriptor.Written

The constructor form of a descriptor, every field by name: the display name
first, then the fields of the variant in order, as in
`Vector(name=None, length=2, element=Maybe(name='M', inner=…))`.
-/

namespace Conformance

/-- Texts in parentheses; one alone keeps a comma behind it. -/
def tupleText : List String → String
  | [t] => "(" ++ t ++ ",)"
  | ts => "(" ++ ", ".intercalate ts ++ ")"

namespace Descriptor

/-- A display name in constructor form. -/
def nameText : Option String → String
  | none => "None"
  | some n => Text.quoted n

/-- A primitive in constructor form. -/
def primitiveText (name : Option String) (kind : Kind) (range : String) : String :=
  "Primitive(name=" ++ nameText name ++ ", kind=<PrimitiveKind." ++ kind.text.toUpper ++ ": " ++
    Text.quoted kind.text ++ ">, range=" ++ range ++ ")"

mutual
/-- The constructor form of a descriptor. -/
def written : Descriptor → String
  | boolean n => primitiveText n .boolean "None"
  | string n => primitiveText n .string "None"
  | number n => primitiveText n .number "None"
  | integer n kind low high =>
    primitiveText n (.integer kind) (tupleText [toString low, toString high])
  | enum n labels =>
    "EnumType(name=" ++ nameText n ++ ", labels=" ++ tupleText (labels.map Text.quoted) ++ ")"
  | struct n fields =>
    "Struct(name=" ++ nameText n ++ ", fields=" ++ tupleText (writtenFields fields) ++ ")"
  | pair n first second =>
    "Pair(name=" ++ nameText n ++ ", first=" ++ written first ++ ", second=" ++ written second ++ ")"
  | vector n length element =>
    "Vector(name=" ++ nameText n ++ ", length=" ++ toString length ++ ", element=" ++
      written element ++ ")"
  | maybe n inner => "Maybe(name=" ++ nameText n ++ ", inner=" ++ written inner ++ ")"
  | fn n input output =>
    "Fn(name=" ++ nameText n ++ ", input=" ++ written input ++ ", output=" ++ written output ++ ")"
/-- Each field as a pair of its name and its descriptor. -/
def writtenFields : List (String × Descriptor) → List String
  | [] => []
  | (n, d) :: fields => tupleText [Text.quoted n, written d] :: writtenFields fields
end

/-- The name of the variant. -/
def variant : Descriptor → String
  | boolean _ | string _ | number _ | integer .. => "Primitive"
  | enum .. => "EnumType"
  | struct .. => "Struct"
  | pair .. => "Pair"
  | vector .. => "Vector"
  | maybe .. => "Maybe"
  | fn .. => "Fn"

end Descriptor

end Conformance
