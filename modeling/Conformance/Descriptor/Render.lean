import Conformance.Descriptor.Basic

/-!
# Conformance.Descriptor.Render

How a descriptor is written.  One with a display name is written as that
name.  Any other is written by its shape:

| variant | shape |
|---|---|
| integer kind | `Uint8`, or `Uint8[0, 9]` when the range is narrower than the kind |
| enum | `Enum("a", "b")`, the labels as they are |
| struct | `{atk: Uint8, def: Uint8}` |
| pair | `(Int, String)` |
| vector | `Vector[4, String]` |
| maybe | `Maybe<Boolean>` |
| function | `Int -> String`; an unnamed function as input stands in parentheses |
-/

namespace Conformance.Descriptor

/-- Whether a descriptor is a function without a display name. -/
def isBareFn : Descriptor → Bool
  | fn none _ _ => true
  | _ => false

/-- An integer kind, with its range where that is narrower. -/
def integerShape (kind : IntegerKind) (low high : Int) : String :=
  if low = kind.low ∧ high = kind.high then kind.text
  else kind.text ++ "[" ++ toString low ++ ", " ++ toString high ++ "]"

/-- Texts with a comma and a space between them. -/
def commaSeparated (texts : List String) : String :=
  ", ".intercalate texts

mutual
/-- The text of a structure, its own display name left aside. -/
def shape : Descriptor → String
  | boolean _ => Kind.boolean.text
  | string _ => Kind.string.text
  | number _ => Kind.number.text
  | integer _ kind low high => integerShape kind low high
  | enum _ labels => "Enum(" ++ commaSeparated (labels.map fun l => "\"" ++ l ++ "\"") ++ ")"
  | struct _ fields => "\x7b" ++ commaSeparated (fieldShapes fields) ++ "\x7d"
  | pair _ first second =>
    "(" ++ first.name.getD (shape first) ++ ", " ++ second.name.getD (shape second) ++ ")"
  | vector _ length element =>
    "Vector[" ++ toString length ++ ", " ++ element.name.getD (shape element) ++ "]"
  | maybe _ inner => "Maybe<" ++ inner.name.getD (shape inner) ++ ">"
  | fn _ input output =>
    let left := input.name.getD (shape input)
    (if isBareFn input then "(" ++ left ++ ")" else left) ++ " -> " ++
      output.name.getD (shape output)
/-- The texts of fields. -/
def fieldShapes : List (String × Descriptor) → List String
  | [] => []
  | (n, d) :: fields => (n ++ ": " ++ d.name.getD (shape d)) :: fieldShapes fields
end

/-- The text of a descriptor: its display name, or else its shape. -/
def render (d : Descriptor) : String :=
  d.name.getD (shape d)

/-! ## The parts of a shape are rendered -/

theorem shape_pair (n : Option String) (first second : Descriptor) :
    shape (pair n first second) = "(" ++ render first ++ ", " ++ render second ++ ")" := rfl

theorem shape_vector (n : Option String) (length : Nat) (element : Descriptor) :
    shape (vector n length element) =
      "Vector[" ++ toString length ++ ", " ++ render element ++ "]" := rfl

theorem shape_maybe (n : Option String) (inner : Descriptor) :
    shape (maybe n inner) = "Maybe<" ++ render inner ++ ">" := rfl

theorem fieldShapes_eq_map (fields : List (String × Descriptor)) :
    fieldShapes fields = fields.map fun f => f.1 ++ ": " ++ render f.2 := by
  induction fields with
  | nil => rfl
  | cons f fields ih => simp [fieldShapes, ih, render]

end Conformance.Descriptor
