import Conformance.Proofs.Validate.Admits

/-!
# Conformance.Proofs.Validate.Diagnosis

What a mismatch tells is true of the value and of the descriptor.

1. Its path leads, in the value, to what was found (`wraps_of_departs`).  A
   `maybe` adds no segment to a path, so `just` layers may be left around it.
2. What was found is refused, at once and for the same reason, by what was
   expected (`validate_expected_of_departs`).  Only an absent field has
   nothing that could be found again.
-/

namespace Conformance

/-- A value is another inside some `just` layers, or the other itself. -/
inductive Value.Wraps : Value → Value → Prop
  | refl (v : Value) : Wraps v v
  | just {v w} (h : Wraps v w) : Wraps (.just v) w

namespace Value

/-! ## Steps of a path -/

@[simp] theorem follow_nil (v : Value) : v.follow [] = v := rfl

/-- Below a name one goes on in the entry under it, or nowhere. -/
theorem follow_dict (entries : List (Value × Value)) (name : String) (path : Path) :
    (dict entries).follow (.field name :: path) =
      ((lookupText entries name).getD .missing).follow path := rfl

/-- Below an index one goes on in the item. -/
theorem follow_of_isSequence {v w : Value} {items : List Value} {i : Nat}
    (hv : v.IsSequence items) (hw : items[i]? = some w) (path : Path) :
    v.follow (.index i :: path) = w.follow path := by
  have hitem : item? items i = w := by
    rw [item?, if_pos (Int.natCast_nonneg i), Int.toNat_natCast, hw, Option.getD_some]
  have hstep : step v.bare (.index i) = item? items i := by
    cases hv with
    | tuple => rfl
    | list => rfl
  rw [follow, hstep, hitem]

/-- A `just` layer is passed through before a step. -/
theorem follow_just (v : Value) (s : Segment) (path : Path) :
    (just v).follow (s :: path) = v.follow (s :: path) := rfl

end Value

namespace Descriptor

/-- The path of a first departure leads to what was found. -/
theorem wraps_of_departs {d : Descriptor} {v : Value} {m : Mismatch} (h : d.Departs v m) :
    (v.follow m.path).Wraps m.actual := by
  induction h with
  | @here d v reason h =>
    rw [Value.follow_nil]
    exact .refl v
  | @absent n fields entries name e hreach h =>
    rw [Value.follow_dict, h]
    exact .refl .missing
  | @field n fields entries name e w m hreach hw h ih =>
    show Value.Wraps (Value.follow _ (.field name :: m.path)) m.actual
    rw [Value.follow_dict, hw]
    exact ih
  | @first n first second v a b m hv h ih =>
    show Value.Wraps (v.follow (.index (0 : Nat) :: m.path)) m.actual
    rw [Value.follow_of_isSequence hv rfl]
    exact ih
  | @second n first second v a b m hv ha h ih =>
    show Value.Wraps (v.follow (.index (1 : Nat) :: m.path)) m.actual
    rw [Value.follow_of_isSequence hv rfl]
    exact ih
  | @item n length element v before w after m hv hlength hbefore h ih =>
    have hitem : (before ++ w :: after)[before.length]? = some w := by simp
    show Value.Wraps (v.follow (.index before.length :: m.path)) m.actual
    rw [Value.follow_of_isSequence hv hitem]
    exact ih
  | @inner n inner w m h ih =>
    -- the layer stays if the path ends here, and is passed through if it goes on
    cases hpath : m.path with
    | nil =>
      rw [hpath, Value.follow_nil] at ih
      rw [Value.follow_nil]
      exact .just ih
    | cons s path =>
      rw [hpath] at ih
      rw [Value.follow_just]
      exact ih

/-- What was found is refused by what was expected, as it was on the way. -/
theorem validate_expected_of_departs {d : Descriptor} {v : Value} {m : Mismatch}
    (h : d.Departs v m) (hactual : m.actual ≠ .missing) :
    m.expected.validate m.actual = m.expected.mismatch m.actual m.reason := by
  induction h with
  | here h => exact h
  | absent => exact absurd rfl hactual
  | field _ _ _ ih => exact ih hactual
  | first _ _ ih => exact ih hactual
  | second _ _ _ ih => exact ih hactual
  | item _ _ _ _ ih => exact ih hactual
  | inner _ ih => exact ih hactual

/-- Nothing admits what stands for an absent field. -/
theorem conforms_missing (d : Descriptor) : d.conforms .missing = false := by
  rw [conforms]
  cases d with
  | _ => simp [validate, mismatch, Value.isFunction]

/-- A mismatch is a faithful diagnosis.

1. Its path leads to what was found, up to `just` layers around it.
2. What was found does not conform to what was expected.
3. Unless it was a field that is absent, it is refused by what was expected
   where it stands, and for the same reason. -/
theorem mismatch_faithful {d : Descriptor} {v : Value} {m : Mismatch}
    (h : d.validate v = some m) :
    (v.follow m.path).Wraps m.actual ∧ m.expected.conforms m.actual = false ∧
      (m.actual ≠ .missing →
        m.expected.validate m.actual = some ⟨[], m.expected, m.actual, m.reason⟩) := by
  have hdeparts := departs_of_validate h
  have hagain : m.actual ≠ .missing →
      m.expected.validate m.actual = some ⟨[], m.expected, m.actual, m.reason⟩ :=
    validate_expected_of_departs hdeparts
  refine ⟨wraps_of_departs hdeparts, ?_, hagain⟩
  by_cases hactual : m.actual = .missing
  · rw [hactual]
    exact m.expected.conforms_missing
  · rw [conforms, hagain hactual, Option.isNone_some]

/-- Members of a party, who may be absent, as may be what is known of each. -/
def party : Descriptor :=
  vector none 2 (maybe none (struct none [("hp", maybe none (ofInteger .uint8))]))

/-- A party with a member of too many points. -/
def strongParty : Value :=
  .list [.nothing, .just (.dict [(.str "hp", .just (.int 300))])]

/-- A party with one member too strong: what is told stands there in a `just`. -/
theorem mismatch_faithful_strongParty :
    ∃ m, party.validate strongParty = some m ∧
      strongParty.follow m.path = .just (.int 300) ∧ (strongParty.follow m.path).Wraps m.actual ∧
      m.expected.validate m.actual = some ⟨[], m.expected, m.actual, m.reason⟩ := by
  have h : party.validate strongParty =
    some ⟨[.index 1, .field "hp"], ofInteger .uint8, .int 300, "out of range [0, 255]"⟩ := by rfl
  obtain ⟨hwraps, -, hagain⟩ := mismatch_faithful h
  exact ⟨_, h, rfl, hwraps, hagain nofun⟩

end Descriptor

end Conformance
