import Conformance.Proofs.Generate.PointUpdate
import Conformance.Proofs.Validate.Admits

/-!
# Conformance.Proofs.Validate.Place

Where a mismatch lies in the descriptor.

The path of a mismatch goes through a `maybe` without a segment, while
`descriptorAt` goes into none.  So the path leads to what was expected, up to
`maybe` layers around it, exactly if it does not go on below a `maybe`
(`Descriptor.PassesMaybe`); if it does, the look-up fails there.
-/

namespace Conformance.Descriptor

/-- A descriptor is another inside some `maybe` layers, or the other itself. -/
inductive Wraps : Descriptor → Descriptor → Prop
  | refl (d : Descriptor) : Wraps d d
  | maybe {d e} (n : Option String) (h : Wraps d e) : Wraps (maybe n d) e

/-- A path goes on where it has come to a `maybe`. -/
def PassesMaybe (d : Descriptor) (path : Path) : Prop :=
  ∃ before s after n inner, path = before ++ s :: after ∧ d.descriptorAt before = .ok (maybe n inner)

/-! ## Paths -/

/-- A path is followed in two stretches. -/
theorem descriptorAt_append {d e : Descriptor} {before : Path} (h : d.descriptorAt before = .ok e)
    (after : Path) : d.descriptorAt (before ++ after) = e.descriptorAt after := by
  induction before generalizing d with
  | nil =>
    obtain rfl : d = e := Except.ok.inj h
    rfl
  | cons s before ih =>
    rw [descriptorAt] at h
    split at h
    · next f hf =>
      rw [List.cons_append, descriptorAt_cons hf]
      exact ih h
    · cases h

/-- A path that goes through a `maybe` cannot be followed in the descriptor. -/
theorem descriptorAt_of_passesMaybe {d : Descriptor} {path : Path} (h : d.PassesMaybe path) :
    ∃ message, d.descriptorAt path = .error (.lookup message) := by
  obtain ⟨before, s, after, n, inner, rfl, hbefore⟩ := h
  rw [descriptorAt_append hbefore]
  exact ⟨_, rfl⟩

/-- What goes on below a `maybe` further down does so from further up. -/
theorem PassesMaybe.cons {d e : Descriptor} {s : Segment} {path : Path} (h : stepInto d s = .ok e)
    (hpath : e.PassesMaybe path) : d.PassesMaybe (s :: path) := by
  obtain ⟨before, t, after, n, inner, rfl, hbefore⟩ := hpath
  refine ⟨s :: before, t, after, n, inner, rfl, ?_⟩
  rw [descriptorAt_cons h]
  exact hbefore

/-- A field that validation gets to is the one that its name leads to. -/
theorem field?_of_reaches {fields : List (String × Descriptor)}
    {entries : List (Value × Value)} {name : String} {e : Descriptor}
    (hnodup : (fields.map (·.1)).Nodup) (h : Reaches fields entries name e) :
    field? fields name = some e ∧ (name, e) ∈ fields := by
  obtain ⟨-, before, after, rfl, -⟩ := h
  have hmem : (name, e) ∈ before ++ (name, e) :: after := by simp
  exact ⟨field?_of_mem hnodup hmem, hmem⟩

/-! ## The place of a mismatch -/

/-- A path leads to a descriptor, up to `maybe` layers around it. -/
def LeadsTo (d : Descriptor) (path : Path) (e : Descriptor) : Prop :=
  ∃ f, d.descriptorAt path = .ok f ∧ f.Wraps e

/-- One more segment in front leads to where the path leads. -/
theorem LeadsTo.cons {d e expected : Descriptor} {s : Segment} {path : Path}
    (h : stepInto d s = .ok e) (hpath : ¬ d.PassesMaybe (s :: path))
    (ih : ¬ e.PassesMaybe path → e.LeadsTo path expected) : d.LeadsTo (s :: path) expected := by
  rw [LeadsTo, descriptorAt_cons h]
  exact ih fun hpasses => hpath (hpasses.cons h)

/-- A mismatch is found along names and integers. -/
theorem Departs.all_isPlain {d : Descriptor} {v : Value} {m : Mismatch} (h : d.Departs v m) :
    m.path.all Segment.isPlain := by
  induction h with
  | here | absent => rfl
  | field _ _ _ ih | first _ _ ih | second _ _ _ ih | item _ _ _ _ ih => exact ih
  | inner _ ih => exact ih

/-- A path that does not go on below a `maybe` leads to what was expected. -/
theorem leadsTo_of_departs {d : Descriptor} {v : Value} {m : Mismatch} (hd : d.WellFormed)
    (h : d.Departs v m) (hpath : ¬ d.PassesMaybe m.path) : d.LeadsTo m.path m.expected := by
  induction h with
  | @here d v reason h => exact ⟨d, rfl, .refl d⟩
  | @absent n fields entries name e hreach h =>
    obtain ⟨-, hnodup, -⟩ := hd
    obtain ⟨hfield, -⟩ := field?_of_reaches hnodup hreach
    refine ⟨e, ?_, .refl e⟩
    rw [descriptorAt_cons (stepInto_field hfield)]
    rfl
  | @field n fields entries name e w m hreach hw h ih =>
    obtain ⟨-, hnodup, hfields⟩ := hd
    obtain ⟨hfield, hmem⟩ := field?_of_reaches hnodup hreach
    exact .cons (stepInto_field hfield) hpath (ih (wellFormed_of_mem hfields hmem))
  | first hv h ih =>
    obtain ⟨-, hfirst, -⟩ := hd
    exact .cons rfl hpath (ih hfirst)
  | second hv ha h ih =>
    obtain ⟨-, -, hsecond⟩ := hd
    exact .cons rfl hpath (ih hsecond)
  | @item n length element v before w after m hv hlength hbefore h ih =>
    obtain ⟨-, -, helement⟩ := hd
    have hindex : before.length < length := by
      rw [← hlength, List.length_append, List.length_cons]
      omega
    exact .cons (stepInto_item hindex) hpath (ih helement)
  | @inner n inner w m h ih =>
    obtain ⟨-, hinner⟩ := hd
    cases hm : m.path with
    | cons s path =>
      have hpasses : (maybe n inner).PassesMaybe m.path := ⟨[], s, path, n, inner, hm, rfl⟩
      exact absurd hpasses hpath
    | nil =>
      have hnone : ¬ inner.PassesMaybe m.path := by
        rintro ⟨before, s, after, _, _, hsplit, -⟩
        rw [hm] at hsplit
        cases before with
        | nil => cases hsplit
        | cons => cases hsplit
      obtain ⟨f, hf, hwraps⟩ := ih hinner hnone
      rw [hm] at hf
      obtain rfl : inner = f := Except.ok.inj hf
      exact ⟨maybe n inner, rfl, .maybe n hwraps⟩

/-- When the path of a mismatch can be followed in the descriptor: exactly if
it does not go on below a `maybe`.  Otherwise the look-up fails. -/
theorem descriptorAt_mismatch {d : Descriptor} {v : Value} {m : Mismatch} (hd : d.WellFormed)
    (h : d.validate v = some m) :
    ((∃ e, d.descriptorAt m.path = .ok e ∧ e.Wraps m.expected) ↔ ¬ d.PassesMaybe m.path) ∧
      (d.PassesMaybe m.path → ∃ message, d.descriptorAt m.path = .error (.lookup message)) := by
  refine ⟨⟨?_, leadsTo_of_departs hd (departs_of_validate h)⟩, descriptorAt_of_passesMaybe⟩
  rintro ⟨e, he, -⟩ hpasses
  obtain ⟨message, herror⟩ := descriptorAt_of_passesMaybe hpasses
  rw [herror] at he
  cases he

/-- Two members, whose points may not be known. -/
def members : Descriptor :=
  vector none 2 (struct none [("hp", maybe none (ofInteger .uint8))])

/-- Members of which the last has too much: the path leads to a `maybe` around
what was expected. -/
theorem descriptorAt_mismatch_members :
    ∃ m e, members.validate (.list [.dict [(.str "hp", .nothing)],
        .dict [(.str "hp", .just (.int 300))]]) = some m ∧
      members.descriptorAt m.path = .ok e ∧ e.Wraps m.expected := by
  have hd : members.WellFormed := by
    simp [members, ofInteger, WellFormed, FieldsWellFormed, NameWellFormed, IntegerKind.low,
      IntegerKind.high]
  have h : members.validate (.list [.dict [(.str "hp", .nothing)],
      .dict [(.str "hp", .just (.int 300))]]) =
    some ⟨[.index 1, .field "hp"], ofInteger .uint8, .int 300, "out of range [0, 255]"⟩ := by rfl
  have hpath : ¬ members.PassesMaybe [.index 1, .field "hp"] := by
    rintro ⟨before, s, after, n, inner, hsplit, hbefore⟩
    rcases before with _ | ⟨_, _ | ⟨_, before⟩⟩
    · cases hbefore
    · cases hsplit
      cases hbefore
    · simp at hsplit
  obtain ⟨e, he, hwraps⟩ := (descriptorAt_mismatch hd h).1.mpr hpath
  exact ⟨_, e, h, he, hwraps⟩

/-- A member who may be absent. -/
def absentMember : Descriptor := maybe none (struct none [("hp", ofInteger .uint8)])

/-- The path of a mismatch below a `maybe` leads nowhere in the descriptor. -/
theorem descriptorAt_absentMember :
    absentMember.WellFormed ∧
      ∃ m, absentMember.validate (.just (.dict [(.str "hp", .int 300)])) = some m ∧
        m.path = [.field "hp"] ∧ m.expected = ofInteger .uint8 ∧
        (∃ message, absentMember.descriptorAt m.path = .error (.lookup message)) ∧
        ¬ ∃ e, absentMember.descriptorAt m.path = .ok e ∧ e.Wraps m.expected := by
  have hd : absentMember.WellFormed := by
    simp [absentMember, ofInteger, WellFormed, FieldsWellFormed, NameWellFormed, IntegerKind.low,
      IntegerKind.high]
  have h : absentMember.validate (.just (.dict [(.str "hp", .int 300)])) =
    some ⟨[.field "hp"], ofInteger .uint8, .int 300, "out of range [0, 255]"⟩ := by rfl
  have hpasses : absentMember.PassesMaybe [.field "hp"] := ⟨[], _, [], _, _, rfl, rfl⟩
  obtain ⟨message, herror⟩ := descriptorAt_of_passesMaybe hpasses
  refine ⟨hd, _, h, rfl, rfl, ⟨message, herror⟩, ?_⟩
  rintro ⟨e, he, -⟩
  rw [herror] at he
  cases he

end Conformance.Descriptor
