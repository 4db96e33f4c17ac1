import Conformance.Generate

/-!
# Conformance.Proofs.Descriptor.WellFormed

Two properties of a descriptor as a tree.

`WellFormed` is what every builder checks before it hands out a descriptor,
at every depth: ranges lie within their kind and are not empty, labels and
field names do not repeat, lengths are positive, names are not empty.

`HasFunction` says that a function stands somewhere in a descriptor.  A
value can be drawn where none does (`ensureGenerable_of_not_hasFunction`);
the other descriptors are refused with `Error.unsupported`
(`exists_unsupported_of_hasFunction`).
-/

namespace Conformance.Descriptor

/-! ## Well-formed descriptors -/

/-- A display name is absent or not empty. -/
def NameWellFormed (name : Option String) : Prop := name ≠ some ""

mutual
/-- What the builders check, at every depth. -/
def WellFormed : Descriptor → Prop
  | boolean n | string n | number n => NameWellFormed n
  | integer n kind low high => NameWellFormed n ∧ kind.low ≤ low ∧ low ≤ high ∧ high ≤ kind.high
  | enum n labels => NameWellFormed n ∧ labels ≠ [] ∧ labels.Nodup
  | struct n fields => NameWellFormed n ∧ (fields.map (·.1)).Nodup ∧ FieldsWellFormed fields
  | pair n first second => NameWellFormed n ∧ WellFormed first ∧ WellFormed second
  | vector n length element => NameWellFormed n ∧ 0 < length ∧ WellFormed element
  | maybe n inner => NameWellFormed n ∧ WellFormed inner
  | fn n input output => NameWellFormed n ∧ WellFormed input ∧ WellFormed output
/-- What the builders check of fields, one by one. -/
def FieldsWellFormed : List (String × Descriptor) → Prop
  | [] => True
  | (n, d) :: fields => n ≠ "" ∧ WellFormed d ∧ FieldsWellFormed fields
end

/-! ## Functions in a descriptor -/

mutual
/-- Whether a function stands somewhere in a descriptor. -/
def HasFunction : Descriptor → Prop
  | fn .. => True
  | struct _ fields => FieldsHaveFunction fields
  | pair _ first second => HasFunction first ∨ HasFunction second
  | vector _ _ element => HasFunction element
  | maybe _ inner => HasFunction inner
  | _ => False
/-- Whether a function stands somewhere in fields. -/
def FieldsHaveFunction : List (String × Descriptor) → Prop
  | [] => False
  | (_, d) :: fields => HasFunction d ∨ FieldsHaveFunction fields
end

mutual
/-- A function is found exactly if there is one. -/
theorem firstFunction?_eq_none_iff : (d : Descriptor) → d.firstFunction? = none ↔ ¬ d.HasFunction
  | boolean _ | string _ | number _ | integer .. | enum .. => by simp [firstFunction?, HasFunction]
  | fn .. => by simp [firstFunction?, HasFunction]
  | struct _ fields => by
      rw [firstFunction?, HasFunction, firstFieldFunction?_eq_none_iff fields]
  | pair _ first second => by
      have h₁ := firstFunction?_eq_none_iff first
      have h₂ := firstFunction?_eq_none_iff second
      rw [firstFunction?, HasFunction, not_or, ← h₁, ← h₂]
      cases first.firstFunction? with
      | none => simp
      | some found => simp
  | vector _ _ element => by
      have h := firstFunction?_eq_none_iff element
      rw [firstFunction?, HasFunction, ← h, Option.map_eq_none_iff]
  | maybe _ inner => by
      rw [firstFunction?, HasFunction, firstFunction?_eq_none_iff inner]

theorem firstFieldFunction?_eq_none_iff : (fields : List (String × Descriptor)) →
    firstFieldFunction? fields = none ↔ ¬ FieldsHaveFunction fields
  | [] => by simp [firstFieldFunction?, FieldsHaveFunction]
  | (n, d) :: fields => by
      have h₁ := firstFunction?_eq_none_iff d
      have h₂ := firstFieldFunction?_eq_none_iff fields
      rw [firstFieldFunction?, FieldsHaveFunction, not_or, ← h₁, ← h₂]
      cases d.firstFunction? with
      | none => simp
      | some found => simp
end

mutual
/-- The path to a function holds names and indices only. -/
theorem all_isPlain_of_firstFunction? : (d : Descriptor) → (path : Path) → (f : Descriptor) →
    d.firstFunction? = some (path, f) → path.all Segment.isPlain
  | boolean _, _, _, h | string _, _, _, h | number _, _, _, h | integer .., _, _, h
  | enum .., _, _, h => by simp [firstFunction?] at h
  | fn .., path, f, h => by
      obtain ⟨rfl, -⟩ : [] = path ∧ _ := by simpa [firstFunction?] using h
      rfl
  | struct _ fields, path, f, h => by
      rw [firstFunction?] at h
      exact all_isPlain_of_firstFieldFunction? fields path f h
  | pair _ first second, path, f, h => by
      rw [firstFunction?] at h
      split at h
      · next below g hfirst =>
        obtain ⟨rfl, -⟩ : .index 0 :: below = path ∧ g = f := by simpa using h
        simpa [Segment.isPlain] using all_isPlain_of_firstFunction? first below g hfirst
      · obtain ⟨⟨below, g⟩, hsecond, he⟩ := Option.map_eq_some_iff.mp h
        obtain ⟨rfl, -⟩ : .index 1 :: below = path ∧ g = f := by simpa using he
        simpa [Segment.isPlain] using all_isPlain_of_firstFunction? second below g hsecond
  | vector _ _ element, path, f, h => by
      rw [firstFunction?] at h
      obtain ⟨⟨below, g⟩, helement, he⟩ := Option.map_eq_some_iff.mp h
      obtain ⟨rfl, -⟩ : .index 0 :: below = path ∧ g = f := by simpa using he
      simpa [Segment.isPlain] using all_isPlain_of_firstFunction? element below g helement
  | maybe _ inner, path, f, h => by
      rw [firstFunction?] at h
      exact all_isPlain_of_firstFunction? inner path f h

theorem all_isPlain_of_firstFieldFunction? : (fields : List (String × Descriptor)) →
    (path : Path) → (f : Descriptor) →
    firstFieldFunction? fields = some (path, f) → path.all Segment.isPlain
  | [], _, _, h => by simp [firstFieldFunction?] at h
  | (n, d) :: fields, path, f, h => by
      rw [firstFieldFunction?] at h
      split at h
      · next below g hd =>
        obtain ⟨rfl, -⟩ : .field n :: below = path ∧ g = f := by simpa using h
        simpa [Segment.isPlain] using all_isPlain_of_firstFunction? d below g hd
      · exact all_isPlain_of_firstFieldFunction? fields path f h
end

/-- The first function is what a descriptor is refused for, with the path to it. -/
theorem ensureGenerable_of_firstFunction? {d f : Descriptor} {path : Path}
    (h : d.firstFunction? = some (path, f)) :
    ∃ message, d.ensureGenerable [] = .error (.unsupported message path) := by
  have hpath : path.all Segment.isNameOrInteger :=
    Path.isNameOrInteger_of_isPlain (all_isPlain_of_firstFunction? d path f h)
  obtain ⟨text, hrender⟩ := Path.exists_render hpath
  rw [ensureGenerable, h]
  simp only [List.nil_append, hrender, bind, Except.bind]
  exact ⟨_, rfl⟩

/-- What holds a function is refused, with the path to the function. -/
theorem exists_unsupported_of_hasFunction {d : Descriptor} (h : d.HasFunction) :
    ∃ message path, d.ensureGenerable [] = .error (.unsupported message path) := by
  obtain ⟨⟨path, f⟩, hfound⟩ : ∃ found, d.firstFunction? = some found := by
    rw [← Option.ne_none_iff_exists']
    intro hnone
    exact (firstFunction?_eq_none_iff d).mp hnone h
  obtain ⟨message, hrefused⟩ := ensureGenerable_of_firstFunction? hfound
  exact ⟨message, path, hrefused⟩

/-- Without a function nothing is refused. -/
theorem ensureGenerable_of_not_hasFunction {d : Descriptor} (h : ¬ d.HasFunction) (path : Path) :
    d.ensureGenerable path = .ok () := by
  rw [ensureGenerable, (firstFunction?_eq_none_iff d).mpr h]

end Conformance.Descriptor
