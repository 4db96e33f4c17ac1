import Conformance.Value.Written

/-!
# Conformance.Path

Positions inside a value or a descriptor.  A path is a list of segments from
the root down: the name of a field, or an index.  Paths made by this library
hold nothing else; a path handed in by a caller may hold any other value as
a segment, which is kept as it is.

A path is written with a dot between names and indices in brackets:
`stats.def`, `items[2].id`.  `render?` has no text for a path whose text
would have to begin with a segment that is neither a name nor an integer.
-/

namespace Conformance

/-- One step of a path. -/
inductive Segment
  | field (name : String)
  | index (i : Int)
  | other (v : Value)
deriving Repr, Inhabited

/-- A position, from the root down. -/
abbrev Path := List Segment

namespace Segment

def ofValue : Value → Segment
  | .str s => field s
  | .int i => index i
  | v => other v

def toValue : Segment → Value
  | field s => .str s
  | index i => .int i
  | other v => v

@[simp] theorem toValue_ofValue (v : Value) : (ofValue v).toValue = v := by
  cases v <;> rfl

/-- The integer a segment is; a boolean is one. -/
def integer? (s : Segment) : Option Int := s.toValue.integer?

/-- Which component of a pair a segment names: any value equal to 0 or 1. -/
def component? (s : Segment) : Option Bool :=
  if s.toValue.same (.int 0) then some false
  else if s.toValue.same (.int 1) then some true
  else none

/-- A segment that a path of this library may hold. -/
def isPlain : Segment → Bool
  | other _ => false
  | _ => true

/-- A name or an integer; a boolean is one. -/
def isNameOrInteger : Segment → Bool
  | field _ | index _ | other (.bool _) => true
  | other _ => false

theorem isNameOrInteger_of_isPlain {s : Segment} (h : s.isPlain) : s.isNameOrInteger := by
  cases s with
  | field _ | index _ => rfl
  | other v => cases h

end Segment

namespace Path

/-- Writes segments behind a text. -/
def renderOnto : (before : String) → Path → Option String
  | before, [] => some before
  | before, .field name :: path =>
    renderOnto (if before.isEmpty then name else before ++ "." ++ name) path
  | before, .index i :: path => renderOnto (before ++ "[" ++ toString i ++ "]") path
  | before, .other (.bool b) :: path =>
    renderOnto (before ++ "[" ++ (Value.bool b).text ++ "]") path
  | before, .other v :: path =>
    if before.isEmpty then none else renderOnto (before ++ "." ++ v.text) path

/-- The text of a path, if it has one. -/
def render? (path : Path) : Option String := renderOnto "" path

/-- The text of a path, empty for one that has none. -/
def text (path : Path) : String := (render? path).getD ""

/-- The text of a path in a message: the root, whose text is empty, is named. -/
def place (text : String) : String :=
  if text.isEmpty then "<root>" else text

/-- A path of names and integers has a text. -/
theorem render?_isSome {path : Path} (h : path.all Segment.isNameOrInteger) :
    (render? path).isSome := by
  have go : ∀ (path : Path) (before : String), path.all Segment.isNameOrInteger →
      (renderOnto before path).isSome := by
    intro path
    induction path with
    | nil => intro before _; rfl
    | cons s path ih =>
      intro before h
      simp only [List.all_cons, Bool.and_eq_true] at h
      cases s with
      | field name => exact ih _ h.2
      | index i => exact ih _ h.2
      | other v =>
        cases v with
        | bool b => exact ih _ h.2
        | _ => exact absurd h.1 (by simp [Segment.isNameOrInteger])
  exact go path "" h

theorem isNameOrInteger_of_isPlain {path : Path} (h : path.all Segment.isPlain) :
    path.all Segment.isNameOrInteger := by
  rw [List.all_eq_true] at h ⊢
  exact fun s hs => Segment.isNameOrInteger_of_isPlain (h s hs)

end Path

namespace Value

/-- A value without the `just` layers around it. -/
def bare : Value → Value
  | just v => bare v
  | v => v

/-- The item at an index, counted from the front. -/
def item? (items : List Value) (i : Int) : Value :=
  if 0 ≤ i then (items[i.toNat]?).getD missing else missing

/-- One step into a value: a name into a mapping, an integer into a list, a
tuple or bytes.  Anything else leads to `missing`, and so does what is absent. -/
def step (v : Value) (s : Segment) : Value :=
  match v, s with
  | dict entries, .field name => (lookupText entries name).getD missing
  | list items, s | tuple items, s =>
    match s.integer? with
    | some i => item? items i
    | none => missing
  | bytes bs, s =>
    match s.integer? with
    | some i => item? (bs.map fun b => int b.toNat) i
    | none => missing
  | _, _ => missing

/-- The value at a path.  The `just` layers around a value are passed
through before each step, not after the last. -/
def follow (v : Value) : Path → Value
  | [] => v
  | s :: path => follow (step v.bare s) path

end Value

end Conformance
