import Conformance.Proofs.Generate.PointUpdate
import Conformance.Value.Arithmetic
import Mathlib.Data.List.Forall2

/-!
# Conformance.Proofs.Generate.Record

A struct is drawn as its fields are drawn one after the other.

`record` makes one mapping of the values of the fields.  What is drawn for a
struct is the record of what is drawn for the descriptors of its fields
(`generate_struct`), and the redraw of a part below a name is the redraw of
that part in the value of the field (`generateAt_record`).
-/

namespace Conformance

/-! ## Records -/

/-- The entries of a mapping of fields to values. -/
def recordEntries (fields : List (String × Descriptor)) (values : List Value) :
    List (Value × Value) :=
  List.zipWith (fun f v => (.str f.1, v)) fields values

/-- Values as one mapping, each under the name of its field. -/
def record (fields : List (String × Descriptor)) (values : List Value) : Value :=
  .dict (recordEntries fields values)

section

variable {fields : List (String × Descriptor)} {values : List Value} {i : Nat}
variable {f : String × Descriptor} {v w : Value}

/-- A name that is not taken is not that of any field. -/
theorem name_ne_of_getElem? {n : String} (hn : n ∉ fields.map (·.1)) (hf : fields[i]? = some f) :
    n ≠ f.1 :=
  fun h => hn (h ▸ List.mem_map_of_mem (f := (·.1)) (List.mem_of_getElem? hf))

/-- Under the name of a field stands its value. -/
theorem lookupText_recordEntries (hnames : (fields.map (·.1)).Nodup) (hf : fields[i]? = some f)
    (hv : values[i]? = some v) : Value.lookupText (recordEntries fields values) f.1 = some v := by
  induction fields generalizing values i with
  | nil => simp at hf
  | cons g fields ih =>
    obtain ⟨hg, hrest⟩ := List.nodup_cons.mp hnames
    cases values with
    | nil => simp at hv
    | cons u values =>
      rw [recordEntries, List.zipWith_cons_cons, Descriptor.lookupText_cons]
      cases i with
      | zero =>
        obtain ⟨rfl, rfl⟩ : g = f ∧ u = v := by simpa using And.intro hf hv
        exact if_pos rfl
      | succ i =>
        rw [List.getElem?_cons_succ] at hf hv
        rw [if_neg (name_ne_of_getElem? hg hf)]
        exact ih hrest hf hv

/-- To put a value under the name of a field is to replace it among the values. -/
theorem insert_recordEntries (hnames : (fields.map (·.1)).Nodup) (hf : fields[i]? = some f)
    (hv : values[i]? = some v) :
    Value.insert (.str f.1) w (recordEntries fields values) =
      recordEntries fields (values.set i w) := by
  induction fields generalizing values i with
  | nil => simp at hf
  | cons g fields ih =>
    obtain ⟨hg, hrest⟩ := List.nodup_cons.mp hnames
    cases values with
    | nil => simp at hv
    | cons u values =>
      cases i with
      | zero =>
        obtain rfl : g = f := by simpa using hf
        simp [recordEntries, Value.insert, Value.same]
      | succ i =>
        rw [List.getElem?_cons_succ] at hf hv
        have hne : (g.1 == f.1) = false := beq_false_of_ne (name_ne_of_getElem? hg hf)
        have htail := ih hrest hf hv
        simp only [recordEntries, List.set_cons_succ, List.zipWith_cons_cons] at htail ⊢
        rw [Value.insert, Value.same, hne, htail]
        rfl

/-- The field of a record is found with its value. -/
theorem fieldAt_record (hnames : (fields.map (·.1)).Nodup) (hf : fields[i]? = some f)
    (hv : values[i]? = some v) :
    Descriptor.fieldAt fields (record fields values) f.1 =
      .ok (recordEntries fields values, f.2, v) := by
  have hfield : Descriptor.field? fields f.1 = some f.2 :=
    Descriptor.field?_of_mem hnames (List.mem_of_getElem? hf)
  simp only [Descriptor.fieldAt, record, hfield, lookupText_recordEntries hnames hf hv]

theorem index_record (hnames : (fields.map (·.1)).Nodup) (hf : fields[i]? = some f)
    (hv : values[i]? = some v) : (record fields values).index (.str f.1) = .ok v := by
  obtain ⟨e, he, rfl⟩ := Option.map_eq_some_iff.mp (lookupText_recordEntries hnames hf hv)
  simp only [record, Value.index, Value.entryAt, Value.isKey, if_true, he]

/-- A record gives back its values under the names in their order. -/
theorem mapM_index_record (hnames : (fields.map (·.1)).Nodup)
    (hlength : values.length = fields.length) :
    fields.mapM (fun f => (record fields values).index (.str f.1)) = .ok values := by
  have heach : List.Forall₂ (fun f v => (record fields values).index (.str f.1) = .ok v)
      fields values := by
    refine List.forall₂_iff_get.mpr ⟨hlength.symm, fun i hi hi' => ?_⟩
    exact index_record hnames (List.getElem?_eq_getElem hi) (List.getElem?_eq_getElem hi')
  generalize record fields values = v at heach
  clear hnames hlength
  induction heach with
  | nil => rfl
  | cons hf _ ih => rw [List.mapM_cons, hf, ih]; rfl

end

namespace Descriptor

variable {s : Sampling} {fields : List (String × Descriptor)} {name : Option String}

/-- A struct is without functions if its fields are. -/
theorem not_hasFunction_struct :
    ¬ (struct name fields).HasFunction ↔ ∀ f ∈ fields, ¬ f.2.HasFunction := by
  rw [HasFunction]
  induction fields with
  | nil => simp [FieldsHaveFunction]
  | cons f fields ih => rw [FieldsHaveFunction, not_or, ih, List.forall_mem_cons]

/-- The entries of a struct are drawn as values are for the descriptors of its fields. -/
theorem sampleFields_eq_generateAll (hf : ∀ f ∈ fields, ¬ f.2.HasFunction) :
    sampleFields s fields =
      generateAll s (fields.map (·.2)) >>= fun values => pure (recordEntries fields values) := by
  induction fields with
  | nil => rfl
  | cons f fields ih =>
    obtain ⟨hhead, hrest⟩ := List.forall_mem_cons.mp hf
    rw [sampleFields, List.map_cons, generateAll, ih hrest, generate_eq_sample s hhead]
    simp only [bind_assoc, pure_bind]
    rfl

/-- The entries of two runs of fields are drawn one run after the other. -/
theorem sampleFields_append (s : Sampling) (fields more : List (String × Descriptor)) :
    sampleFields s (fields ++ more) = (do
      let entries ← sampleFields s fields
      let rest ← sampleFields s more
      pure (entries ++ rest)) := by
  induction fields with
  | nil => simp [sampleFields]
  | cons f fields ih => simp [sampleFields, ih]

/-- What is drawn for a struct is the record of what is drawn for its fields. -/
theorem generate_struct (hf : ∀ f ∈ fields, ¬ f.2.HasFunction) :
    generate s (struct name fields) =
      generateAll s (fields.map (·.2)) >>= fun values => pure (record fields values) := by
  rw [generate_eq_sample s (not_hasFunction_struct.mpr hf), sample, sampleFields_eq_generateAll hf,
    bind_assoc]
  simp only [pure_bind]
  rfl

/-- The redraw of a part of a field leaves the other fields alone. -/
theorem generateAt_record {values : List Value} {i : Nat} {f : String × Descriptor} {v : Value}
    (hnames : (fields.map (·.1)).Nodup) (hf : fields[i]? = some f) (hv : values[i]? = some v)
    (path : Path) :
    generateAt s (.field f.1 :: path) (struct name fields) (record fields values) =
      generateAt s path f.2 v >>= fun w => pure (record fields (values.set i w)) := by
  simp only [generateAt, fieldAt_record hnames hf hv, demand_ok, pure_bind,
    insert_recordEntries hnames hf hv]
  rfl

end Descriptor

end Conformance
