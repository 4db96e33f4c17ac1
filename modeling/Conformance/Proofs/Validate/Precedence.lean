import Conformance.Proofs.Validate.Diagnosis
import Conformance.Proofs.Validate.Place

/-!
# Conformance.Proofs.Validate.Precedence

What comes before a mismatch.

A mismatch is the first one there is: wherever its path goes on, the
container that it goes through has the shape it should have, and what is
declared there before the next segment conforms (`OrderlyBefore`).  So an
undeclared key is told in preference to anything about the fields.

The container at a path and the descriptor that it is checked against are
found by `checkedAt`, which follows the descriptor and the value together
and leaves behind `maybe` and `just` layers that stand opposite each other.
-/

namespace Conformance.Descriptor

/-! ## What is checked at a path -/

/-- A descriptor and the value that is checked against it, without `maybe`
and `just` layers that stand opposite each other. -/
def unwrapped : Descriptor → Value → Descriptor × Value
  | maybe _ inner, .just w => unwrapped inner w
  | d, v => (d, v)

/-- The part of a value at a path, and the descriptor that it is checked against. -/
def checkedAt (d : Descriptor) (v : Value) : Path → Option (Descriptor × Value)
  | [] => some (unwrapped d v)
  | s :: path =>
    match stepInto (unwrapped d v).1 s with
    | .ok e => checkedAt e (v.bare.step s) path
    | .error _ => none

variable {d : Descriptor} {v : Value} {m : Mismatch}

/-- A path is followed as validation goes, through `maybe` and `just` alike. -/
theorem checkedAt_cons {e : Descriptor} {s : Segment} (h : stepInto (unwrapped d v).1 s = .ok e)
    (path : Path) : d.checkedAt v (s :: path) = e.checkedAt (v.bare.step s) path := by
  rw [checkedAt, h]

/-- What stands for an absent part has no layers. -/
theorem unwrapped_missing (d : Descriptor) : unwrapped d .missing = (d, .missing) := by
  cases d with
  | _ => rfl

/-- A value is what is left of it, wrapped again. -/
theorem wraps_unwrapped (d : Descriptor) (v : Value) : v.Wraps (unwrapped d v).2 := by
  fun_induction unwrapped d v with
  | case1 n inner w ih => exact .just ih
  | case2 d v => exact .refl v

/-- The part that is checked is the one the path leads to in the value. -/
theorem wraps_of_checkedAt {path : Path} {e : Descriptor} {w : Value}
    (h : d.checkedAt v path = some (e, w)) : (v.follow path).Wraps w := by
  induction path generalizing d v with
  | nil =>
    have hw : (unwrapped d v).2 = w := congrArg Prod.snd (Option.some.inj h)
    rw [Value.follow_nil, ← hw]
    exact wraps_unwrapped d v
  | cons s path ih =>
    rw [checkedAt] at h
    split at h
    · exact ih h
    · cases h

/-- What departs does so without the layers. -/
theorem departs_unwrapped (h : d.Departs v m) :
    (unwrapped d v).1.Departs (unwrapped d v).2 m := by
  fun_induction unwrapped d v with
  | case1 n inner w ih =>
    refine ih ?_
    cases h with
    | here h => exact departs_of_validate h
    | inner h => exact h
  | case2 d v => exact h

/-! ## One step of the path -/

/-- A container is as it should be as far as a segment: its shape is right,
and what is declared before the part at the segment is there and conforms. -/
inductive OrderlyBefore : Descriptor → Value → Segment → Prop
  | field {n before name e after entries}
    (hkeys : undeclared (before ++ (name, e) :: after) entries = [])
    (hbefore : ∀ f ∈ before, ∃ w, Value.lookupText entries f.1 = some w ∧ f.2.conforms w) :
    OrderlyBefore (struct n (before ++ (name, e) :: after)) (.dict entries) (.field name)
  | first {n first second v a b} (hv : v.IsSequence [a, b]) :
    OrderlyBefore (pair n first second) v (.index 0)
  | second {n first second v a b} (hv : v.IsSequence [a, b]) (ha : first.conforms a) :
    OrderlyBefore (pair n first second) v (.index 1)
  | item {n length element v items} {i : Nat} (hv : v.IsSequence items)
    (hlength : items.length = length) (hi : i < length)
    (hbefore : ∀ j < i, ∀ w, items[j]? = some w → element.conforms w) :
    OrderlyBefore (vector n length element) v (.index i)

/-- A field is reached only after those before it are in order. -/
theorem orderlyBefore_of_reaches {n : Option String} {fields : List (String × Descriptor)}
    {entries : List (Value × Value)} {name : String} {e : Descriptor}
    (h : Reaches fields entries name e) :
    OrderlyBefore (struct n fields) (.dict entries) (.field name) := by
  obtain ⟨hkeys, before, after, rfl, hbefore⟩ := h
  refine .field (undeclared_eq_nil_iff.mpr hkeys) fun f hf => ?_
  obtain ⟨w, hw, hadmits⟩ := hbefore f hf
  exact ⟨w, hw, conforms_iff_admits.mpr hadmits⟩

/-- An item is reached only after those before it are in order. -/
theorem orderlyBefore_of_item {n : Option String} {element : Descriptor} {v w : Value}
    {before after : List Value} (hv : v.IsSequence (before ++ w :: after))
    (hbefore : ∀ u ∈ before, element.Admits u) :
    OrderlyBefore (vector n (before ++ w :: after).length element) v (.index before.length) := by
  refine .item hv rfl ?_ fun j hj u hu => ?_
  · rw [List.length_append, List.length_cons]
    omega
  · rw [List.getElem?_append_left hj] at hu
    exact conforms_iff_admits.mpr (hbefore u (List.mem_of_getElem? hu))

/-- The first step of the path of a departure: the container is as it should
be up to there, and the part departs in its turn, unless it is absent. -/
theorem Departs.step {s : Segment} {rest : Path} (h : d.Departs v m) (hd : d.WellFormed)
    (hpath : m.path = s :: rest) :
    ∃ e, stepInto (unwrapped d v).1 s = .ok e ∧ e.WellFormed ∧
      OrderlyBefore (unwrapped d v).1 (unwrapped d v).2 s ∧
      (v.bare.step s = .missing ∧ rest = [] ∨
        e.Departs (v.bare.step s) { m with path := rest }) := by
  induction h with
  | here => cases hpath
  | @absent n fields entries name e hreach h =>
    cases hpath
    obtain ⟨-, hnodup, hfields⟩ := hd
    obtain ⟨hfield, hmem⟩ := field?_of_reaches hnodup hreach
    have hmissing : (Value.dict entries).bare.step (.field name) = .missing := by
      simp only [Value.bare, Value.step, h, Option.getD_none]
    exact ⟨e, stepInto_field hfield, wellFormed_of_mem hfields hmem,
      orderlyBefore_of_reaches hreach, .inl ⟨hmissing, rfl⟩⟩
  | @field n fields entries name e w m hreach hw h ih =>
    cases hpath
    obtain ⟨-, hnodup, hfields⟩ := hd
    obtain ⟨hfield, hmem⟩ := field?_of_reaches hnodup hreach
    have hpart : (Value.dict entries).bare.step (.field name) = w := by
      simp only [Value.bare, Value.step, hw, Option.getD_some]
    refine ⟨e, stepInto_field hfield, wellFormed_of_mem hfields hmem,
      orderlyBefore_of_reaches hreach, .inr ?_⟩
    rw [hpart]
    exact h
  | @first n first second v a b m hv h ih =>
    cases hpath
    obtain ⟨-, hfirst, -⟩ := hd
    have hpart : v.bare.step (.index (0 : Nat)) = a := Value.follow_of_isSequence hv rfl []
    refine ⟨first, rfl, hfirst, .first hv, .inr ?_⟩
    rw [← hpart] at h
    exact h
  | @second n first second v a b m hv ha h ih =>
    cases hpath
    obtain ⟨-, -, hsecond⟩ := hd
    have hpart : v.bare.step (.index (1 : Nat)) = b := Value.follow_of_isSequence hv rfl []
    refine ⟨second, rfl, hsecond, .second hv (conforms_iff_admits.mpr ha), .inr ?_⟩
    rw [← hpart] at h
    exact h
  | @item n length element v before w after m hv hlength hbefore h ih =>
    cases hpath
    subst hlength
    obtain ⟨-, -, helement⟩ := hd
    have hindex : before.length < (before ++ w :: after).length := by
      rw [List.length_append, List.length_cons]
      omega
    have hitem : (before ++ w :: after)[before.length]? = some w := by simp
    have hpart : v.bare.step (.index before.length) = w := Value.follow_of_isSequence hv hitem []
    refine ⟨element, stepInto_item hindex, helement, orderlyBefore_of_item hv hbefore, .inr ?_⟩
    rw [← hpart] at h
    exact h
  | inner h ih =>
    obtain ⟨-, hinner⟩ := hd
    exact ih hinner hpath

/-! ## The whole path -/

/-- Every container on the way to a departure is as it should be up to there. -/
theorem Departs.orderlyBefore {before after : Path} {s : Segment} (h : d.Departs v m)
    (hd : d.WellFormed) (hpath : m.path = before ++ s :: after) :
    ∃ e w, d.checkedAt v before = some (e, w) ∧ e.OrderlyBefore w s := by
  induction before generalizing d v m with
  | nil =>
    obtain ⟨-, -, -, horderly, -⟩ := h.step hd hpath
    exact ⟨_, _, rfl, horderly⟩
  | cons t before ih =>
    obtain ⟨e, hstep, he, -, ⟨-, hend⟩ | hpart⟩ := h.step hd hpath
    · simp at hend
    · rw [checkedAt_cons hstep]
      exact ih hpart he rfl

/-- What departs at a part that is there departs as the part does on its own. -/
theorem Departs.of_checkedAt {before after : Path} {e : Descriptor} {w : Value}
    (h : d.Departs v m) (hd : d.WellFormed) (hpath : m.path = before ++ after)
    (hw : d.checkedAt v before = some (e, w)) (hthere : w ≠ .missing) :
    e.Departs w { m with path := after } := by
  induction before generalizing d v m with
  | nil =>
    obtain ⟨rfl, rfl⟩ : (unwrapped d v).1 = e ∧ (unwrapped d v).2 = w :=
      Prod.mk.inj (Option.some.inj hw)
    subst hpath
    exact departs_unwrapped h
  | cons s before ih =>
    obtain ⟨f, hstep, hf, -, hpart⟩ := h.step hd hpath
    rw [checkedAt_cons hstep] at hw
    rcases hpart with ⟨hmissing, hend⟩ | hpart
    · obtain ⟨rfl, -⟩ := List.append_eq_nil_iff.mp hend
      rw [hmissing, Descriptor.checkedAt, unwrapped_missing] at hw
      cases hw
      exact absurd rfl hthere
    · have hrest := ih hpart hf rfl hw
      exact hrest

/-- A mapping with an undeclared key departs at once, and that is told. -/
theorem Departs.of_undeclared {n : Option String} {fields : List (String × Descriptor)}
    {entries : List (Value × Value)} (h : Departs (struct n fields) (.dict entries) m)
    (hkeys : undeclared fields entries ≠ []) :
    m = ⟨[], struct n fields, .dict entries, "unexpected field(s) " ++
      ", ".intercalate ((undeclared fields entries).map Value.written)⟩ := by
  cases h with
  | @here _ _ reason h =>
    have hrefused : (struct n fields).validate (.dict entries) =
        (struct n fields).mismatch (.dict entries) ("unexpected field(s) " ++
          ", ".intercalate ((undeclared fields entries).map Value.written)) := by
      obtain ⟨key, keys, hextra⟩ := List.exists_cons_of_ne_nil hkeys
      simp only [validate, hextra]
    exact Option.some.inj (h.symm.trans hrefused)
  | absent hreach => exact absurd (undeclared_eq_nil_iff.mpr hreach.1) hkeys
  | field hreach => exact absurd (undeclared_eq_nil_iff.mpr hreach.1) hkeys

/-- The first mismatch wins.

1. Every container that the path of a mismatch goes through has the shape it
   should have, and what is declared there before the next segment conforms.
2. So where a mapping has an undeclared key, no path goes on: a mismatch that
   is not found before is that of the mapping itself, for its undeclared keys. -/
theorem mismatch_first (hd : d.WellFormed) (h : d.validate v = some m) :
    (∀ before s after, m.path = before ++ s :: after →
      ∃ e w, d.checkedAt v before = some (e, w) ∧ (v.follow before).Wraps w ∧
        e.OrderlyBefore w s) ∧
    ∀ before after n fields entries, m.path = before ++ after →
      d.checkedAt v before = some (struct n fields, .dict entries) →
      undeclared fields entries ≠ [] →
        m = ⟨before, struct n fields, .dict entries, "unexpected field(s) " ++
          ", ".intercalate ((undeclared fields entries).map Value.written)⟩ := by
  have hdeparts := departs_of_validate h
  refine ⟨fun before s after hpath => ?_, fun before after n fields entries hpath hw hkeys => ?_⟩
  · obtain ⟨e, w, hw, horderly⟩ := hdeparts.orderlyBefore hd hpath
    exact ⟨e, w, hw, wraps_of_checkedAt hw, horderly⟩
  · have hhere := (hdeparts.of_checkedAt hd hpath hw nofun).of_undeclared hkeys
    obtain ⟨path, expected, actual, reason⟩ := m
    obtain ⟨rfl, rfl, rfl, rfl⟩ := Mismatch.mk.inj hhere
    obtain rfl : path = before := hpath.trans (List.append_nil before)
    rfl

/-- A member of a team. -/
def member : Descriptor := struct none [("hp", ofInteger .uint8)]

/-- A team of two, who may be absent. -/
def team : Descriptor :=
  struct none [("name", string none), ("members", vector none 2 (maybe none member))]

/-- A team whose second member lacks a field and has one too many. -/
def givenTeam : Value :=
  .dict [(.str "members", .tuple [.nothing, .just (.dict [(.str "mp", .int 3)])]),
    (.str "name", .str "Red")]

/-- The second member departs, and the first is in order. -/
theorem mismatch_first_givenTeam :
    ∃ m, team.validate givenTeam = some m ∧ m.path = [.field "members", .index 1] ∧
      (∃ e w, team.checkedAt givenTeam [.field "members"] = some (e, w) ∧
        e.OrderlyBefore w (.index 1)) ∧
      m.expected = member ∧ m.reason = "unexpected field(s) " ++
        ", ".intercalate ((undeclared [("hp", ofInteger .uint8)] [(.str "mp", .int 3)]).map
          Value.written) := by
  have hd : team.WellFormed := by
    simp [team, member, ofInteger, WellFormed, FieldsWellFormed, NameWellFormed, IntegerKind.low,
      IntegerKind.high]
  have h : ∃ reason, team.validate givenTeam =
      some ⟨[.field "members", .index 1], member, .dict [(.str "mp", .int 3)], reason⟩ :=
    ⟨_, rfl⟩
  obtain ⟨reason, h⟩ := h
  obtain ⟨horderly, hundeclared⟩ := mismatch_first hd h
  obtain ⟨e, w, hw, -, hbefore⟩ := horderly [.field "members"] (.index 1) [] rfl
  have hfirst := hundeclared [.field "members", .index 1] [] none _ _ rfl rfl
    (List.cons_ne_nil (Value.str "mp") [])
  exact ⟨_, h, rfl, ⟨e, w, hw, hbefore⟩, rfl, congrArg Mismatch.reason hfirst⟩

end Conformance.Descriptor
