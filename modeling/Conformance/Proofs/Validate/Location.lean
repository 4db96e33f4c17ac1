import Conformance.Proofs.Path
import Conformance.Proofs.Validate.Admits

/-!
# Conformance.Proofs.Validate.Location

What the place in a message says of a mismatch.

The path of a mismatch is made of indices and of names that the descriptor
declares (`Descriptor.Departs.unmarked`).  If these hold no mark, two mismatches
are told to be in one place only if they are (`Mismatch.location_eq_iff`).  The
root makes an exception: its text is empty, so that it is named instead, and a
field may have that name.
-/

namespace Conformance

/-! ## Places -/

namespace Path

/-- The root, or a field with the name that messages give the root. -/
def CalledRoot (path : Path) : Prop := path = [] ∨ path = [.field "<root>"]

/-- Two texts tell one place if they are the same, or if both stand for the whole. -/
theorem place_eq_iff {text text' : String} : place text = place text' ↔
    text = text' ∨ ((text = "" ∨ text = "<root>") ∧ (text' = "" ∨ text' = "<root>")) := by
  unfold place
  grind [String.isEmpty_iff]

/-- A path is called the root if its text is empty or that of the root. -/
theorem calledRoot_iff {path : Path} (h : ∀ s ∈ path, s.Unmarked) :
    path.CalledRoot ↔ path.text = "" ∨ path.text = "<root>" := by
  have hnamed : ∀ s ∈ ([.field "<root>"] : Path), s.Unmarked := by
    simp [Segment.Unmarked, Segment.marks]
  have htext : text [.field "<root>"] = "<root>" := rfl
  rw [CalledRoot, text_eq_empty_iff h, ← text_eq_iff h hnamed, htext]

/-- Paths without marks tell one place if they are the same, or if both are called the root. -/
theorem place_text_eq_iff {path path' : Path} (h : ∀ s ∈ path, s.Unmarked)
    (h' : ∀ s ∈ path', s.Unmarked) :
    place path.text = place path'.text ↔ path = path' ∨ (path.CalledRoot ∧ path'.CalledRoot) := by
  rw [place_eq_iff, text_eq_iff h h', calledRoot_iff h, calledRoot_iff h']

end Path

/-! ## Mismatches -/

namespace Descriptor

mutual
/-- No field has a name that is empty or holds a mark, wherever validation can
get to. -/
def Unmarked : Descriptor → Prop
  | struct _ fields => FieldsUnmarked fields
  | pair _ first second => Unmarked first ∧ Unmarked second
  | vector _ _ element => Unmarked element
  | maybe _ inner => Unmarked inner
  | _ => True
/-- Fields with such names and such descriptors. -/
def FieldsUnmarked : List (String × Descriptor) → Prop
  | [] => True
  | (n, d) :: fields => (Segment.field n).Unmarked ∧ Unmarked d ∧ FieldsUnmarked fields
end

/-- What is reached below unmarked fields has an unmarked name, and so has all below it. -/
theorem unmarked_of_reaches {fields : List (String × Descriptor)}
    {entries : List (Value × Value)} {name : String} {e : Descriptor}
    (hfields : FieldsUnmarked fields) (h : Reaches fields entries name e) :
    (Segment.field name).Unmarked ∧ e.Unmarked := by
  obtain ⟨-, before, after, rfl, -⟩ := h
  induction before with
  | nil => exact ⟨hfields.1, hfields.2.1⟩
  | cons f before ih => exact ih hfields.2.2

/-- The names on the path of a mismatch are declared. -/
theorem Departs.unmarked {d : Descriptor} {v : Value} {m : Mismatch} (h : d.Departs v m)
    (hd : d.Unmarked) : ∀ s ∈ m.path, s.Unmarked := by
  induction h with
  | here => exact List.forall_mem_nil _
  | absent hreach =>
    obtain ⟨hname, -⟩ := unmarked_of_reaches hd hreach
    exact List.forall_mem_singleton.mpr hname
  | field hreach _ _ ih =>
    obtain ⟨hname, he⟩ := unmarked_of_reaches hd hreach
    exact List.forall_mem_cons.mpr ⟨hname, ih he⟩
  | first _ _ ih => exact List.forall_mem_cons.mpr ⟨trivial, ih hd.1⟩
  | second _ _ _ ih => exact List.forall_mem_cons.mpr ⟨trivial, ih hd.2⟩
  | item _ _ _ _ ih => exact List.forall_mem_cons.mpr ⟨trivial, ih hd⟩
  | inner _ ih => exact ih hd

end Descriptor

/-- Two mismatches are told to be in one place exactly if they are, or if each
of them is in one that is called the root. -/
theorem Mismatch.location_eq_iff {d d' : Descriptor} {v v' : Value} {m m' : Mismatch}
    (hd : d.Unmarked) (hd' : d'.Unmarked) (h : d.validate v = some m)
    (h' : d'.validate v' = some m') :
    m.location = m'.location ↔
      m.path = m'.path ∨ (m.path.CalledRoot ∧ m'.path.CalledRoot) :=
  Path.place_text_eq_iff ((Descriptor.departs_of_validate h).unmarked hd)
    ((Descriptor.departs_of_validate h').unmarked hd')

end Conformance
