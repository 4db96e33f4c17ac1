import Conformance.Validate

/-!
# Conformance.Proofs.Validate.Admits

What the validator decides, said without the validator.

`Descriptor.Admits` has one rule for each form of value under each variant:
these are the values of the descriptor.  `Descriptor.Departs` says of a
mismatch that it tells where a value departs from a descriptor first: at
each container on the way nothing is wrong with the container itself, and
all parts that are declared earlier are admitted.

The validator is followed once, variant by variant (`validated`): a value
that is accepted is admitted, and the mismatch of any other tells its first
departure.  Nothing that is admitted is refused (`validate_of_admits`).
-/

namespace Conformance

/-! ## Sequences and entries -/

namespace Value

/-- A value is a tuple or a list of these items. -/
inductive IsSequence : Value → List Value → Prop
  | tuple (items : List Value) : IsSequence (.tuple items) items
  | list (items : List Value) : IsSequence (.list items) items

theorem same_str {key : Value} {name : String} : key.same (.str name) = true ↔ key = .str name := by
  cases key with
  | str s => simp [same]
  | _ => simp [same, sameNumber, numeric?]

/-- There is an entry under a name exactly if the name is a key. -/
theorem exists_lookupText {entries : List (Value × Value)} {name : String} :
    (∃ v, lookupText entries name = some v) ↔ .str name ∈ entries.map (·.1) := by
  unfold lookupText lookup
  simp only [Option.map_eq_some_iff, List.mem_map]
  constructor
  · rintro ⟨v, e, he, rfl⟩
    have hkey := List.find?_some he
    exact ⟨e, List.mem_of_find?_eq_some he, same_str.mp hkey⟩
  · rintro ⟨e, he, hkey⟩
    have hfound : (entries.find? fun e => same e.1 (.str name)).isSome := by
      rw [List.find?_isSome]
      exact ⟨e, he, same_str.mpr hkey⟩
    obtain ⟨found, hfound⟩ := Option.isSome_iff_exists.mp hfound
    exact ⟨found.2, found, hfound, rfl⟩

end Value

namespace Descriptor

/-! ## Admitted values -/

/-- The values of a descriptor. -/
inductive Admits : Descriptor → Value → Prop
  | boolean (n : Option String) (b : Bool) : Admits (boolean n) (.bool b)
  | string (n : Option String) (s : String) : Admits (string n) (.str s)
  | whole (n : Option String) (i : Int) : Admits (number n) (.int i)
  | finite {n x} (hx : x.isFinite) : Admits (number n) (.float x)
  | integer {n kind low high i} (hi : low ≤ i ∧ i ≤ high) :
    Admits (integer n kind low high) (.int i)
  | label {n labels s} (hs : s ∈ labels) : Admits (enum n labels) (.str s)
  | struct {n fields entries}
    (hkeys : ∀ key, key ∈ entries.map (·.1) ↔ ∃ f ∈ fields, key = .str f.1)
    (hentries : ∀ f ∈ fields, ∀ w, Value.lookupText entries f.1 = some w → Admits f.2 w) :
    Admits (struct n fields) (.dict entries)
  | pair {n first second v a b} (hv : v.IsSequence [a, b]) (ha : Admits first a)
    (hb : Admits second b) : Admits (pair n first second) v
  | vector {n length element v items} (hv : v.IsSequence items) (hlength : items.length = length)
    (hitems : ∀ w ∈ items, Admits element w) : Admits (vector n length element) v
  | nothing (n : Option String) (inner : Descriptor) : Admits (maybe n inner) .nothing
  | just {n inner w} (hw : Admits inner w) : Admits (maybe n inner) (.just w)
  | function (n : Option String) (input output : Descriptor) (f : Callable) :
    Admits (fn n input output) (.function f)

/-- The entry of a field is there and admitted. -/
def AdmitsEntry (entries : List (Value × Value)) (f : String × Descriptor) : Prop :=
  ∃ w, Value.lookupText entries f.1 = some w ∧ f.2.Admits w

/-- No key of a mapping is undeclared. -/
def Declares (fields : List (String × Descriptor)) (entries : List (Value × Value)) : Prop :=
  ∀ key ∈ entries.map (·.1), ∃ f ∈ fields, key = .str f.1

/-- No key is undeclared exactly if the fields declare all of them. -/
theorem undeclared_eq_nil_iff {fields : List (String × Descriptor)}
    {entries : List (Value × Value)} : undeclared fields entries = [] ↔ Declares fields entries := by
  unfold undeclared Declares
  rw [List.filter_eq_nil_iff]
  refine forall₂_congr fun key _ => ?_
  cases key with
  | str s => simp
  | _ => simp

/-- Entries are admitted one by one once their keys are declared. -/
theorem admits_struct {n : Option String} {fields : List (String × Descriptor)}
    {entries : List (Value × Value)} (hkeys : Declares fields entries)
    (hentries : ∀ f ∈ fields, AdmitsEntry entries f) : (struct n fields).Admits (.dict entries) := by
  refine .struct (fun key => ⟨hkeys key, ?_⟩) fun f hf v hv => ?_
  · rintro ⟨f, hf, rfl⟩
    obtain ⟨w, hw, -⟩ := hentries f hf
    exact Value.exists_lookupText.mp ⟨w, hw⟩
  · obtain ⟨w, hw, hadmits⟩ := hentries f hf
    obtain rfl : w = v := Option.some.inj (hw.symm.trans hv)
    exact hadmits

/-! ## First departures -/

/-- A field that validation gets to: no key of the mapping is undeclared, and
the entries of the fields before it are admitted. -/
def Reaches (fields : List (String × Descriptor)) (entries : List (Value × Value))
    (name : String) (e : Descriptor) : Prop :=
  Declares fields entries ∧
    ∃ before after, fields = before ++ (name, e) :: after ∧ ∀ f ∈ before, AdmitsEntry entries f

/-- A mismatch tells the first departure of a value from a descriptor. -/
inductive Departs : Descriptor → Value → Mismatch → Prop
  | here {d v reason} (h : d.validate v = d.mismatch v reason) : Departs d v ⟨[], d, v, reason⟩
  | absent {n fields entries name e} (hreach : Reaches fields entries name e)
    (h : Value.lookupText entries name = none) :
    Departs (struct n fields) (.dict entries) ⟨[.field name], e, .missing, "missing field"⟩
  | field {n fields entries name e w m} (hreach : Reaches fields entries name e)
    (hw : Value.lookupText entries name = some w) (h : Departs e w m) :
    Departs (struct n fields) (.dict entries) (m.under (.field name))
  | first {n first second v a b m} (hv : v.IsSequence [a, b]) (h : Departs first a m) :
    Departs (pair n first second) v (m.under (.index 0))
  | second {n first second v a b m} (hv : v.IsSequence [a, b]) (ha : first.Admits a)
    (h : Departs second b m) : Departs (pair n first second) v (m.under (.index 1))
  | item {n length element v before w after m} (hv : v.IsSequence (before ++ w :: after))
    (hlength : (before ++ w :: after).length = length) (hbefore : ∀ u ∈ before, element.Admits u)
    (h : Departs element w m) :
    Departs (vector n length element) v (m.under (.index before.length))
  | inner {n inner w m} (h : Departs inner w m) : Departs (maybe n inner) (.just w) m

/-! ## The validator, variant by variant -/

/-- What validation comes to: the value is admitted and accepted, or its
first departure is told. -/
inductive Validated (d : Descriptor) (v : Value) : Option Mismatch → Prop
  | accepted (h : d.Admits v) : Validated d v none
  | refused {m} (h : d.Departs v m) : Validated d v (some m)

/-- What the validation of fields comes to. -/
inductive FieldsValidated (entries : List (Value × Value)) :
    List (String × Descriptor) → Option Mismatch → Prop
  | accepted {fields} (h : ∀ f ∈ fields, AdmitsEntry entries f) :
    FieldsValidated entries fields none
  | absent {before name e after} (hbefore : ∀ f ∈ before, AdmitsEntry entries f)
    (h : Value.lookupText entries name = none) :
    FieldsValidated entries (before ++ (name, e) :: after)
      (some ⟨[.field name], e, .missing, "missing field"⟩)
  | refused {before name e after w m} (hbefore : ∀ f ∈ before, AdmitsEntry entries f)
    (hw : Value.lookupText entries name = some w) (h : e.Departs w m) :
    FieldsValidated entries (before ++ (name, e) :: after) (some (m.under (.field name)))

/-- Where nothing is told, the value is admitted. -/
theorem Validated.admits_of_none {d : Descriptor} {v : Value} {told : Option Mismatch}
    (h : d.Validated v told) (hnone : told = none) : d.Admits v := by
  cases h with
  | accepted h => exact h
  | refused h => cases hnone

/-- A departure of the value itself is what validation tells. -/
theorem validated_here {d : Descriptor} {v : Value} {reason : String}
    (h : d.validate v = d.mismatch v reason) : d.Validated v (d.validate v) := by
  rw [h]
  exact .refused (.here h)

/-- A field whose entry is admitted goes before the others. -/
theorem FieldsValidated.cons {entries : List (Value × Value)} {f : String × Descriptor}
    {fields : List (String × Descriptor)} {told : Option Mismatch} (hf : AdmitsEntry entries f)
    (h : FieldsValidated entries fields told) : FieldsValidated entries (f :: fields) told := by
  cases h with
  | accepted h => exact .accepted (List.forall_mem_cons.mpr ⟨hf, h⟩)
  | @absent before name e after hbefore h =>
    have hfields : ∀ g ∈ f :: before, AdmitsEntry entries g :=
      List.forall_mem_cons.mpr ⟨hf, hbefore⟩
    exact .absent hfields h
  | @refused before name e after w m hbefore hw h =>
    have hfields : ∀ g ∈ f :: before, AdmitsEntry entries g :=
      List.forall_mem_cons.mpr ⟨hf, hbefore⟩
    exact .refused hfields hw h

/-- The first mismatch among items, and how far it is. -/
theorem firstMismatch_cases (check : Value → Option Mismatch) (i : Nat) (items : List Value) :
    (∀ w ∈ items, check w = none) ∧ firstMismatch check i items = none ∨
      ∃ before w after m, items = before ++ w :: after ∧ (∀ u ∈ before, check u = none) ∧
        check w = some m ∧
        firstMismatch check i items = some (m.under (.index (i + before.length : Nat))) := by
  induction items generalizing i with
  | nil => exact .inl ⟨by simp, rfl⟩
  | cons w items ih =>
    rw [firstMismatch]
    rcases hw : check w with _ | m
    · rcases ih (i + 1) with ⟨hall, hnone⟩ | ⟨before, u, after, m, rfl, hbefore, hu, hsome⟩
      · exact .inl ⟨List.forall_mem_cons.mpr ⟨hw, hall⟩, hnone⟩
      · refine .inr ⟨w :: before, u, after, m, rfl, List.forall_mem_cons.mpr ⟨hw, hbefore⟩, hu, ?_⟩
        have hindex : i + 1 + before.length = i + (w :: before).length := by
          rw [List.length_cons]
          omega
        rw [← hindex]
        exact hsome
    · exact .inr ⟨[], w, items, m, rfl, by simp, hw, rfl⟩

/-- A pair is validated by its components, once it has the shape of one. -/
theorem validate_pair {n : Option String} {first second : Descriptor} {v a b : Value}
    (hv : v.IsSequence [a, b]) : (pair n first second).validate v =
      match first.validate a with
      | some m => some (m.under (.index 0))
      | none => (second.validate b).map (·.under (.index 1)) := by
  cases hv with
  | tuple => rfl
  | list => rfl

/-- A vector is validated by its items, once it has as many as it should. -/
theorem validate_vector {n : Option String} {length : Nat} {element : Descriptor} {v : Value}
    {items : List Value} (hv : v.IsSequence items) (hlength : items.length = length) :
    (vector n length element).validate v = firstMismatch (fun w => element.validate w) 0 items := by
  cases hv with
  | tuple => rw [validate, if_pos hlength]
  | list => rw [validate, if_pos hlength]

/-- A pair has two items, or it is refused as it stands. -/
theorem pair_shape (v : Value) :
    (∃ a b, v.IsSequence [a, b]) ∨ ∃ reason, ∀ n first second,
      (pair n first second).validate v = (pair n first second).mismatch v reason := by
  cases v with
  | tuple items =>
    match items with
    | [a, b] => exact .inl ⟨a, b, .tuple _⟩
    | [] | [_] | _ :: _ :: _ :: _ => exact .inr ⟨_, fun _ _ _ => rfl⟩
  | list items =>
    match items with
    | [a, b] => exact .inl ⟨a, b, .list _⟩
    | [] | [_] | _ :: _ :: _ :: _ => exact .inr ⟨_, fun _ _ _ => rfl⟩
  | _ => exact .inr ⟨_, fun _ _ _ => rfl⟩

/-- A vector has as many items as it should, or it is refused as it stands. -/
theorem vector_shape (length : Nat) (v : Value) :
    (∃ items, v.IsSequence items ∧ items.length = length) ∨ ∃ reason, ∀ n element,
      (vector n length element).validate v = (vector n length element).mismatch v reason := by
  cases v with
  | tuple items =>
    by_cases hlength : items.length = length
    · exact .inl ⟨items, .tuple items, hlength⟩
    · exact .inr ⟨_, fun n element => by rw [validate, if_neg hlength]⟩
  | list items =>
    by_cases hlength : items.length = length
    · exact .inl ⟨items, .list items, hlength⟩
    · exact .inr ⟨_, fun n element => by rw [validate, if_neg hlength]⟩
  | _ => exact .inr ⟨_, fun _ _ => rfl⟩

mutual
/-- What is accepted is admitted, and what is refused departs as told. -/
theorem validated : (d : Descriptor) → (v : Value) → d.Validated v (d.validate v)
  | boolean n, v => by
      cases v with
      | bool b => exact .accepted (.boolean n b)
      | _ => exact validated_here rfl
  | string n, v => by
      cases v with
      | str s => exact .accepted (.string n s)
      | _ => exact validated_here rfl
  | number n, v => by
      cases v with
      | int i => exact .accepted (.whole n i)
      | float x =>
        by_cases hx : x.isFinite
        · rw [validate, if_pos hx]
          exact .accepted (.finite hx)
        · exact validated_here (by rw [validate, if_neg hx])
      | _ => exact validated_here rfl
  | integer n kind low high, v => by
      cases v with
      | int i =>
        by_cases hi : low ≤ i ∧ i ≤ high
        · rw [validate, if_pos hi]
          exact .accepted (.integer hi)
        · exact validated_here (by rw [validate, if_neg hi])
      | _ => exact validated_here rfl
  | enum n labels, v => by
      cases v with
      | str s =>
        by_cases hs : labels.contains s
        · rw [validate, if_pos hs]
          exact .accepted (.label (List.contains_iff_mem.mp hs))
        · exact validated_here (by rw [validate, if_neg hs])
      | _ => exact validated_here rfl
  | struct n fields, v => by
      cases v with
      | dict entries =>
        rcases hkeys : undeclared fields entries with _ | ⟨key, keys⟩
        · have hdeclares := undeclared_eq_nil_iff.mp hkeys
          simp only [validate, hkeys]
          have hfields := validatedFields fields entries
          generalize validateFields fields entries = told at hfields
          cases hfields with
          | accepted h => exact .accepted (admits_struct hdeclares h)
          | @absent before name e after hbefore h =>
            exact .refused (.absent ⟨hdeclares, before, after, rfl, hbefore⟩ h)
          | @refused before name e after w m hbefore hw h =>
            exact .refused (.field ⟨hdeclares, before, after, rfl, hbefore⟩ hw h)
        · have hrefused : (struct n fields).validate (.dict entries) =
              (struct n fields).mismatch (.dict entries)
                ("unexpected field(s) " ++ ", ".intercalate ((key :: keys).map Value.written)) := by
            simp only [validate, hkeys]
          exact validated_here hrefused
      | _ => exact validated_here rfl
  | pair n first second, v => by
      rcases pair_shape v with ⟨a, b, hv⟩ | ⟨reason, h⟩
      · have ha := validated first a
        have hb := validated second b
        rw [validate_pair hv]
        generalize first.validate a = toldFirst at ha
        generalize second.validate b = toldSecond at hb
        cases ha with
        | refused ha => exact .refused (.first hv ha)
        | accepted ha =>
          cases hb with
          | accepted hb => exact .accepted (.pair hv ha hb)
          | refused hb => exact .refused (.second hv ha hb)
      · exact validated_here (h n first second)
  | vector n length element, v => by
      rcases vector_shape length v with ⟨items, hv, hlength⟩ | ⟨reason, h⟩
      · have hadmits : ∀ u, element.validate u = none → element.Admits u :=
          fun u hu => (validated element u).admits_of_none hu
        rw [validate_vector hv hlength]
        rcases firstMismatch_cases (fun w => element.validate w) 0 items with
          ⟨hall, hnone⟩ | ⟨before, w, after, m, rfl, hbefore, hw, hsome⟩
        · rw [hnone]
          exact .accepted (.vector hv hlength fun w hw => hadmits w (hall w hw))
        · have hdeparts := validated element w
          rw [hw] at hdeparts
          rw [hsome, Nat.zero_add]
          cases hdeparts with
          | refused h =>
            exact .refused (.item hv hlength (fun u hu => hadmits u (hbefore u hu)) h)
      · exact validated_here (h n element)
  | maybe n inner, v => by
      cases v with
      | nothing => exact .accepted (.nothing n inner)
      | just w =>
        have hw := validated inner w
        rw [validate]
        generalize inner.validate w = told at hw
        cases hw with
        | accepted h => exact .accepted (.just h)
        | refused h => exact .refused (.inner h)
      | _ => exact validated_here rfl
  | fn n input output, v => by
      cases v with
      | function f => exact .accepted (.function n input output f)
      | _ => exact validated_here rfl

/-- The fields of a struct are validated in their order. -/
theorem validatedFields : (fields : List (String × Descriptor)) →
    (entries : List (Value × Value)) →
    FieldsValidated entries fields (validateFields fields entries)
  | [], entries => .accepted (by simp)
  | (name, e) :: fields, entries => by
      rw [validateFields]
      rcases hlookup : Value.lookupText entries name with _ | w
      · have hnone : ∀ f ∈ ([] : List (String × Descriptor)), AdmitsEntry entries f := by simp
        exact .absent hnone hlookup
      · have hw := validated e w
        dsimp only
        generalize e.validate w = told at hw
        cases hw with
        | accepted h => exact (validatedFields fields entries).cons ⟨w, hlookup, h⟩
        | refused h =>
          have hnone : ∀ f ∈ ([] : List (String × Descriptor)), AdmitsEntry entries f := by simp
          exact .refused hnone hlookup h
end

/-! ## Acceptance -/

/-- What passes validation is admitted. -/
theorem admits_of_validate {d : Descriptor} {v : Value} (h : d.validate v = none) : d.Admits v :=
  (validated d v).admits_of_none h

/-- What does not departs as it is told. -/
theorem departs_of_validate {d : Descriptor} {v : Value} {m : Mismatch}
    (h : d.validate v = some m) : d.Departs v m := by
  have hvalidated := validated d v
  rw [h] at hvalidated
  cases hvalidated with
  | refused h => exact h

/-- Fields pass if there is an entry for each that passes. -/
theorem validateFields_eq_none {fields : List (String × Descriptor)}
    {entries : List (Value × Value)}
    (h : ∀ f ∈ fields, ∃ w, Value.lookupText entries f.1 = some w ∧ f.2.validate w = none) :
    validateFields fields entries = none := by
  induction fields with
  | nil => rfl
  | cons f fields ih =>
    obtain ⟨⟨w, hw, hnone⟩, hfields⟩ := List.forall_mem_cons.mp h
    rw [validateFields, hw]
    simp only [hnone]
    exact ih hfields

/-- What is admitted is accepted. -/
theorem validate_of_admits {d : Descriptor} {v : Value} (h : d.Admits v) : d.validate v = none := by
  induction h with
  | boolean | string | whole | nothing | function => rfl
  | finite hx => rw [validate, if_pos hx]
  | integer hi => rw [validate, if_pos hi]
  | label hs => rw [validate, if_pos (List.contains_iff_mem.mpr hs)]
  | @struct n fields entries hkeys hentries ih =>
    have hdeclares : Declares fields entries := fun key hkey => (hkeys key).mp hkey
    simp only [validate, undeclared_eq_nil_iff.mpr hdeclares]
    refine validateFields_eq_none fun f hf => ?_
    obtain ⟨w, hw⟩ := Value.exists_lookupText.mpr ((hkeys (.str f.1)).mpr ⟨f, hf, rfl⟩)
    exact ⟨w, hw, ih f hf w hw⟩
  | pair hv ha hb iha ihb => rw [validate_pair hv, iha, ihb, Option.map_none]
  | @vector n length element v items hv hlength hitems ih =>
    rw [validate_vector hv hlength]
    rcases firstMismatch_cases (fun w => element.validate w) 0 items with
      ⟨-, hnone⟩ | ⟨before, w, after, m, rfl, -, hw, -⟩
    · exact hnone
    · have hmem : w ∈ before ++ w :: after := by simp
      rw [ih w hmem] at hw
      cases hw
  | just hw ih => rw [validate, ih]

/-- To conform is to be admitted. -/
theorem conforms_iff_admits {d : Descriptor} {v : Value} : d.conforms v = true ↔ d.Admits v := by
  rw [conforms, Option.isNone_iff_eq_none]
  exact ⟨admits_of_validate, validate_of_admits⟩

/-- The validator accepts exactly the values of a descriptor, whichever way
it is asked. -/
theorem validate_eq_none_iff_admits (d : Descriptor) (v : Value) :
    (d.validate v = none ↔ d.Admits v) ∧ (d.conforms v = true ↔ d.Admits v) ∧
      (d.check v = .ok v ↔ d.Admits v) := by
  have hvalidate : d.validate v = none ↔ d.Admits v := ⟨admits_of_validate, validate_of_admits⟩
  refine ⟨hvalidate, ?_, ?_⟩
  · rw [conforms, Option.isNone_iff_eq_none, hvalidate]
  · rw [← hvalidate, check]
    cases d.validate v with
    | none => simp
    | some m => simp

end Descriptor

end Conformance
