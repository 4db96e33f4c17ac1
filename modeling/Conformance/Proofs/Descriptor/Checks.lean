import Conformance.Descriptor.Build
import Mathlib.Data.List.Forall2

/-!
# Conformance.Proofs.Descriptor.Checks

What the checks of the builders accept, and how they fail.

Each check has one lemma on what it accepts, `…_eq_ok`, and one on how it
fails: `refuses_…` where all that it can do is refuse, `…_eq_error` where it
goes through a value, or takes one apart, without a check that it can.
-/

namespace Conformance

/-! ## Sequences of checks -/

/-- Whether a check can only refuse. -/
def Refuses {α : Type} (r : Except Error α) : Prop :=
  ∀ error, r = .error error → ∃ message, error = .descriptor message

section

variable {α β : Type} {x : Except Error α} {f : α → Except Error β} {b : β} {error : Error}

/-- Two checks in a row pass exactly if each passes. -/
theorem bind_eq_ok : x >>= f = .ok b ↔ ∃ a, x = .ok a ∧ f a = .ok b := by
  cases x with
  | error error => simp [bind, Except.bind]
  | ok a => simp [bind, Except.bind]

/-- Two checks in a row fail with the first error. -/
theorem bind_eq_error :
    x >>= f = .error error ↔ x = .error error ∨ ∃ a, x = .ok a ∧ f a = .error error := by
  cases x with
  | error error => simp [bind, Except.bind]
  | ok a => simp [bind, Except.bind]

/-- What is made of a result needs the result. -/
theorem map_eq_ok {g : α → β} : x.map g = .ok b ↔ ∃ a, x = .ok a ∧ g a = b := by
  cases x with
  | error error => simp [Except.map]
  | ok a => simp [Except.map]

theorem map_eq_error {g : α → β} : x.map g = .error error ↔ x = .error error := by
  cases x with
  | error other => simp [Except.map]
  | ok a => simp [Except.map]

theorem refuses_ok (a : α) : Refuses (.ok a) := nofun

/-- What is found malformed is refused. -/
theorem refuses_refuse (m : Malformed) : Refuses (Descriptor.refuse m : Except Error α) := by
  rintro error ⟨⟩
  exact ⟨_, rfl⟩

/-- Checks in a row only refuse if each one does. -/
theorem Refuses.bind (hx : Refuses x) (hf : ∀ a, x = .ok a → Refuses (f a)) :
    Refuses (x >>= f) := by
  intro error h
  rcases bind_eq_error.mp h with h | ⟨a, ha, h⟩
  · exact hx error h
  · exact hf a ha error h

/-- To make something of a result refuses nothing more. -/
theorem Refuses.map (hx : Refuses x) (g : α → β) : Refuses (x.map g) := by
  intro error h
  exact hx error (map_eq_error.mp h)

end

namespace Descriptor

/-! ## Names, components and lengths -/

/-- A value that stands for a display name. -/
inductive IsName : Value → Option String → Prop
  | absent : IsName .nothing none
  | text {s : String} (hs : s ≠ "") : IsName (.str s) (some s)

/-- A name is accepted if it is none or a text that is not empty. -/
theorem checkName_eq_ok {v : Value} {n : Option String} : checkName v = .ok n ↔ IsName v n := by
  constructor
  · intro h
    cases v with
    | nothing =>
      cases h
      exact .absent
    | str s =>
      by_cases hs : s.isEmpty
      · simp [checkName, hs, refuse] at h
      · obtain rfl : some s = n := by simpa [checkName, hs] using h
        exact .text (by simpa using hs)
    | _ => cases h
  · rintro (_ | hs)
    · rfl
    · simp [checkName, hs]

/-- Any other value for a name is refused. -/
theorem refuses_checkName (v : Value) : Refuses (checkName v) := by
  cases v with
  | nothing => exact refuses_ok _
  | str s =>
    by_cases hs : s.isEmpty
    · simpa [checkName, hs] using refuses_refuse _
    · simpa [checkName, hs] using refuses_ok _
  | _ => exact refuses_refuse _

/-- A component has to be a descriptor. -/
theorem checkComponent_eq_ok {role : String} {v : Value} {d : Descriptor} :
    checkComponent role v = .ok d ↔ v = .descriptor d := by
  cases v <;> simp [checkComponent, refuse]

/-- Anything else in its place is refused, whatever its role. -/
theorem refuses_checkComponent (role : String) (v : Value) : Refuses (checkComponent role v) := by
  cases v with
  | descriptor d => exact refuses_ok d
  | _ => exact refuses_refuse _

/-- A length is a positive integer. -/
theorem checkLength_eq_ok {v : Value} {n : Nat} :
    checkLength v = .ok n ↔ 0 < n ∧ v = .int n := by
  cases v with
  | int i =>
    by_cases hi : 0 < i
    · simp only [checkLength, if_pos hi, Except.ok.injEq, Value.int.injEq]
      omega
    · simp only [checkLength, if_neg hi, refuse, reduceCtorEq, Value.int.injEq, false_iff]
      omega
  | _ => simp [checkLength, refuse]

/-- Anything else for a length is refused. -/
theorem refuses_checkLength (v : Value) : Refuses (checkLength v) := by
  cases v with
  | int i =>
    by_cases hi : 0 < i
    · simpa [checkLength, hi] using refuses_ok _
    · simpa [checkLength, hi] using refuses_refuse _
  | _ => exact refuses_refuse _

/-- What is gone through comes apart into its items. -/
theorem checkItems_eq_ok {v : Value} {items : List Value} :
    checkItems v = .ok items ↔ v.items? = some items := by
  unfold checkItems
  cases v.items? <;> simp

/-- What cannot be gone through slips: it is not refused. -/
theorem checkItems_eq_error {v : Value} {error : Error} :
    checkItems v = .error error ↔ error = .intrinsic .type ∧ v.items? = none := by
  unfold checkItems
  cases v.items? <;> simp [eq_comm]

/-! ## Primitives -/

/-- A kind is found by its own text alone. -/
theorem ofText?_eq_some {s : String} {kind : Kind} :
    Kind.ofText? s = some kind ↔ s = kind.text := by
  constructor
  · intro h
    have htext := List.find?_some h
    exact (beq_iff_eq.mp htext).symm
  · rintro rfl
    rcases kind with _ | _ | _ | kind
    · decide
    · decide
    · decide
    · cases kind <;> decide

/-- A kind is stated by its text, and by no other value. -/
theorem checkKind_eq_ok {v : Value} {kind : Kind} :
    checkKind v = .ok kind ↔ v = .str kind.text := by
  cases v with
  | str s =>
    simp only [checkKind, Value.str.injEq, ← ofText?_eq_some]
    cases Kind.ofText? s <;> simp [refuse]
  | _ => simp [checkKind, refuse]

/-- Every other value for a kind is refused. -/
theorem refuses_checkKind (v : Value) : Refuses (checkKind v) := by
  cases v with
  | str s =>
    simp only [checkKind]
    cases Kind.ofText? s
    · exact refuses_refuse _
    · exact refuses_ok _
  | _ => exact refuses_refuse _

/-- A range within an integer kind. -/
structure IsRange (kind : IntegerKind) (range : Value) (low high : Int) : Prop where
  bounds : range.items? = some [.int low, .int high]
  least : kind.low ≤ low
  ordered : low ≤ high
  greatest : high ≤ kind.high

/-- A range is accepted if it is two bounds in order that the kind can hold. -/
theorem checkRange_eq_ok {kind : IntegerKind} {range : Value} {low high : Int} :
    checkRange kind range = .ok (low, high) ↔ IsRange kind range low high := by
  constructor
  · intro h
    obtain ⟨items, hitems, h⟩ := bind_eq_ok.mp h
    split at h
    · next low' high' =>
      split at h
      · cases h
      · split at h
        · cases h
        · obtain ⟨rfl, rfl⟩ : low' = low ∧ high' = high := by simpa using h
          exact ⟨checkItems_eq_ok.mp hitems, by omega, by omega, by omega⟩
    · cases h
    · cases h
  · rintro ⟨hbounds, hleast, hordered, hgreatest⟩
    refine bind_eq_ok.mpr ⟨_, checkItems_eq_ok.mpr hbounds, ?_⟩
    dsimp only
    rw [if_neg (by omega), if_neg (by omega)]

/-- A range that cannot be gone through, or that has not two items, is taken
apart all the same. -/
theorem checkRange_eq_error {kind : IntegerKind} {range : Value} {error : Error}
    (h : checkRange kind range = .error error) :
    (∃ message, error = .descriptor message) ∨
      (error = .intrinsic .type ∧ range.items? = none) ∨
      (error = .intrinsic .value ∧ ∃ items, range.items? = some items ∧ items.length ≠ 2) := by
  rcases bind_eq_error.mp h with h | ⟨items, hitems, h⟩
  · exact .inr (.inl (checkItems_eq_error.mp h))
  · split at h
    · split at h
      · exact .inl (refuses_refuse _ error h)
      · split at h
        · exact .inl (refuses_refuse _ error h)
        · cases h
    · exact .inl (refuses_refuse _ error h)
    · next hpair =>
      cases h
      refine .inr (.inr ⟨rfl, items, checkItems_eq_ok.mp hitems, fun hlength => ?_⟩)
      obtain ⟨v, w, rfl⟩ := List.length_eq_two.mp hlength
      exact hpair v w rfl

/-- A range that cannot be gone through slips. -/
theorem checkRange_of_items?_eq_none {kind : IntegerKind} {range : Value}
    (h : range.items? = none) : checkRange kind range = .error (.intrinsic .type) :=
  bind_eq_error.mpr (.inl (checkItems_eq_error.mpr ⟨rfl, h⟩))

/-- A range that has not two bounds slips. -/
theorem checkRange_of_length_ne {kind : IntegerKind} {range : Value} {items : List Value}
    (hitems : range.items? = some items) (hlength : items.length ≠ 2) :
    checkRange kind range = .error (.intrinsic .value) := by
  refine bind_eq_error.mpr (.inr ⟨items, checkItems_eq_ok.mpr hitems, ?_⟩)
  split
  · simp at hlength
  · simp at hlength
  · rfl

/-! ## Labels and fields -/

/-- Labels are accepted if all of them are texts. -/
theorem checkLabels_eq_ok {items : List Value} {labels : List String} :
    checkLabels items = .ok labels ↔ items = labels.map .str := by
  induction items generalizing labels with
  | nil => simp [checkLabels, eq_comm]
  | cons item items ih =>
    cases item with
    | str s =>
      rw [checkLabels, map_eq_ok]
      cases labels with
      | nil => simp
      | cons label labels =>
        simp only [ih, List.cons.injEq, List.map_cons, Value.str.injEq]
        constructor
        · rintro ⟨others, hothers, rfl, rfl⟩
          exact ⟨rfl, hothers⟩
        · rintro ⟨rfl, hothers⟩
          exact ⟨labels, hothers, rfl, rfl⟩
    | _ => cases labels <;> simp [checkLabels, refuse]

/-- Once the labels are in a list, the check can only refuse. -/
theorem refuses_checkLabels (items : List Value) : Refuses (checkLabels items) := by
  induction items with
  | nil => exact refuses_ok _
  | cons item items ih =>
    cases item with
    | str s => exact ih.map _
    | _ => exact refuses_refuse _

/-- An item that stands for a field: two items, a name and a descriptor. -/
def IsField (item : Value) (f : String × Descriptor) : Prop :=
  item.items? = some [.str f.1, .descriptor f.2]

/-- A field is a name of its own, not empty and not taken, with a descriptor. -/
theorem checkField_eq_ok {taken : List String} {item : Value} {f : String × Descriptor} :
    checkField taken item = .ok f ↔ IsField item f ∧ f.1 ≠ "" ∧ f.1 ∉ taken := by
  constructor
  · intro h
    unfold checkField at h
    split at h
    · next fieldName component hitems =>
      split at h
      · next n =>
        split at h
        · cases h
        · next hn =>
          split at h
          · cases h
          · next htaken =>
            obtain ⟨d, hd, rfl⟩ := map_eq_ok.mp h
            obtain rfl := checkComponent_eq_ok.mp hd
            exact ⟨hitems, by simpa using hn, by simpa using htaken⟩
      · cases h
    · cases h
  · rintro ⟨hitem, hn, htaken⟩
    rw [checkField, hitem]
    simp [hn, htaken, checkComponent, Except.map]

/-- An item that is no such field is refused. -/
theorem refuses_checkField (taken : List String) (item : Value) :
    Refuses (checkField taken item) := by
  unfold checkField
  split
  · split
    · split
      · exact refuses_refuse _
      · split
        · exact refuses_refuse _
        · exact (refuses_checkComponent _ _).map _
    · exact refuses_refuse _
  · exact refuses_refuse _

/-- Fields are accepted if each item is one, no name is empty, and none comes
twice. -/
theorem checkFields_eq_ok {taken : List String} {items : List Value}
    {fields : List (String × Descriptor)} :
    checkFields taken items = .ok fields ↔
      List.Forall₂ IsField items fields ∧ (∀ f ∈ fields, f.1 ≠ "" ∧ f.1 ∉ taken) ∧
        (fields.map (·.1)).Nodup := by
  induction items generalizing taken fields with
  | nil => cases fields <;> simp [checkFields]
  | cons item items ih =>
    simp only [checkFields, bind_eq_ok, checkField_eq_ok, ih, Except.ok.injEq]
    constructor
    · rintro ⟨f, ⟨hf, hname, htaken⟩, others, ⟨hitems, hothers, hnodup⟩, rfl⟩
      refine ⟨.cons hf hitems, ?_, ?_⟩
      · rintro g (_ | ⟨_, hg⟩)
        · exact ⟨hname, htaken⟩
        · exact ⟨(hothers g hg).1, fun h => (hothers g hg).2 (List.mem_cons_of_mem _ h)⟩
      · refine List.nodup_cons.mpr ⟨fun h => ?_, hnodup⟩
        obtain ⟨g, hg, hgf⟩ := List.mem_map.mp h
        exact (hothers g hg).2 (hgf ▸ List.mem_cons_self)
    · rintro ⟨hitems, hall, hnodup⟩
      cases hitems with
      | @cons _ f _ others hf hrest =>
        obtain ⟨hfirst, hothers⟩ := List.forall_mem_cons.mp hall
        obtain ⟨hnew, hnodup⟩ := List.nodup_cons.mp hnodup
        refine ⟨f, ⟨hf, hfirst⟩, others, ⟨hrest, fun g hg => ⟨(hothers g hg).1, ?_⟩, hnodup⟩, rfl⟩
        intro h
        rcases List.mem_cons.mp h with heq | h
        · exact hnew (List.mem_map.mpr ⟨g, hg, heq⟩)
        · exact (hothers g hg).2 h

/-- Items that stand for the fields of a struct. -/
structure AreFields (items : List Value) (fields : List (String × Descriptor)) : Prop where
  each : List.Forall₂ IsField items fields
  named : ∀ f ∈ fields, f.1 ≠ ""
  nodup : (fields.map (·.1)).Nodup

/-- From the start on, fields are accepted if each is one and no name repeats. -/
theorem checkFields_nil_eq_ok {items : List Value} {fields : List (String × Descriptor)} :
    checkFields [] items = .ok fields ↔ AreFields items fields := by
  rw [checkFields_eq_ok]
  constructor
  · rintro ⟨heach, hnamed, hnodup⟩
    exact ⟨heach, fun f hf => (hnamed f hf).1, hnodup⟩
  · rintro ⟨heach, hnamed, hnodup⟩
    exact ⟨heach, fun f hf => ⟨hnamed f hf, List.not_mem_nil⟩, hnodup⟩

/-- Once the fields are in a list, the check can only refuse. -/
theorem refuses_checkFields (taken : List String) (items : List Value) :
    Refuses (checkFields taken items) := by
  induction items generalizing taken with
  | nil => exact refuses_ok _
  | cons item items ih =>
    refine (refuses_checkField taken item).bind fun f _ => ?_
    exact (ih _).bind fun others _ => refuses_ok _

/-- Fields that cannot be gone through slip. -/
theorem fieldItems_eq_error {v : Value} {error : Error} :
    fieldItems v = .error error ↔ error = .intrinsic .type ∧ v.items? = none := by
  unfold fieldItems
  split
  · simp [Value.items?]
  · exact checkItems_eq_error

end Descriptor

end Conformance
