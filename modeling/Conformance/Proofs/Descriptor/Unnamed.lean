import Conformance.Descriptor.Build
import Conformance.Invariant.Blame
import Conformance.Proofs.Generate.PointUpdate
import Conformance.Proofs.Validate.Admits
import Mathlib.Data.List.Forall2

/-!
# Conformance.Proofs.Descriptor.Unnamed

Display names do not matter.

`unnamed` takes the names out of a descriptor at every depth, and two
descriptors are equal in structure exactly if they are the same without
names (`same_iff_unnamed`).  So a function does not look at names if what it
comes to is the same for the unnamed descriptor, or the same without names.
One lemma says so of each function: validation, the search for functions,
drawing, leaves, redrawing.  What two equal descriptors come to is then alike
(`validate_alike`, `generate_alike`, `leafPaths_alike`): texts may differ that
write a descriptor, and nothing else.
-/

namespace Conformance

namespace Descriptor

/-! ## Descriptors without names -/

mutual
/-- A descriptor without display names, at any depth. -/
def unnamed : Descriptor → Descriptor
  | boolean _ => boolean none
  | string _ => string none
  | number _ => number none
  | integer _ kind low high => integer none kind low high
  | enum _ labels => enum none labels
  | struct _ fields => struct none (unnamedFields fields)
  | pair _ first second => pair none (unnamed first) (unnamed second)
  | vector _ length element => vector none length (unnamed element)
  | maybe _ inner => maybe none (unnamed inner)
  | fn _ input output => fn none (unnamed input) (unnamed output)
/-- Fields whose descriptors have no display names. -/
def unnamedFields : List (String × Descriptor) → List (String × Descriptor)
  | [] => []
  | (n, d) :: fields => (n, unnamed d) :: unnamedFields fields
end

/-- Field by field the display names are left out. -/
theorem unnamedFields_eq_map (fields : List (String × Descriptor)) :
    unnamedFields fields = fields.map fun f => (f.1, f.2.unnamed) := by
  induction fields with
  | nil => rfl
  | cons f fields ih => rw [unnamedFields, ih, List.map_cons]

mutual
/-- Descriptors are equal in structure exactly if they differ in names only. -/
theorem same_iff_unnamed : (d e : Descriptor) → d.same e = true ↔ d.unnamed = e.unnamed
  | boolean _, e | string _, e | number _, e | integer .., e | enum .., e => by
      cases e with
      | _ => simp [same, unnamed, and_assoc]
  | struct _ fields, e => by
      cases e with
      | struct _ fields' => simp [same, unnamed, sameFields_iff_unnamed fields fields']
      | _ => simp [same, unnamed]
  | pair _ first second, e => by
      cases e with
      | pair _ first' second' =>
        simp [same, unnamed, same_iff_unnamed first first', same_iff_unnamed second second']
      | _ => simp [same, unnamed]
  | vector _ _ element, e => by
      cases e with
      | vector _ _ element' => simp [same, unnamed, same_iff_unnamed element element']
      | _ => simp [same, unnamed]
  | maybe _ inner, e => by
      cases e with
      | maybe _ inner' => simp [same, unnamed, same_iff_unnamed inner inner']
      | _ => simp [same, unnamed]
  | fn _ input output, e => by
      cases e with
      | fn _ input' output' =>
        simp [same, unnamed, same_iff_unnamed input input', same_iff_unnamed output output']
      | _ => simp [same, unnamed]

/-- Fields are the same if they are without display names. -/
theorem sameFields_iff_unnamed : (fields fields' : List (String × Descriptor)) →
    sameFields fields fields' = true ↔ unnamedFields fields = unnamedFields fields'
  | [], fields' => by
      cases fields' with
      | nil => simp [sameFields, unnamedFields]
      | cons => simp [sameFields, unnamedFields]
  | (_, d) :: fields, fields' => by
      cases fields' with
      | nil => simp [sameFields, unnamedFields]
      | cons f fields' =>
        simp [sameFields, unnamedFields, same_iff_unnamed d f.2,
          sameFields_iff_unnamed fields fields']
end

end Descriptor

/-! ## Validation -/

/-- A mismatch whose expectation is told without names. -/
def Mismatch.unnamed (m : Mismatch) : Mismatch :=
  { m with expected := m.expected.unnamed }

namespace Descriptor

/-- The same keys are undeclared. -/
theorem undeclared_unnamedFields (fields : List (String × Descriptor))
    (entries : List (Value × Value)) :
    undeclared (unnamedFields fields) entries = undeclared fields entries := by
  unfold undeclared
  rw [unnamedFields_eq_map]
  simp only [List.any_map]
  rfl

/-- If items are checked alike, the same one departs first. -/
theorem firstMismatch_unnamed {check check' : Value → Option Mismatch}
    (h : ∀ w, check' w = (check w).map Mismatch.unnamed) (i : Nat) (items : List Value) :
    firstMismatch check' i items = (firstMismatch check i items).map Mismatch.unnamed := by
  induction items generalizing i with
  | nil => rfl
  | cons w items ih =>
    rw [firstMismatch, firstMismatch, h w]
    cases check w with
    | none => exact ih (i + 1)
    | some m => rfl

mutual
/-- A value departs at the same place and for the same reason. -/
theorem validate_unnamed : (d : Descriptor) → (v : Value) →
    d.unnamed.validate v = (d.validate v).map Mismatch.unnamed
  | boolean _, v | string _, v | fn .., v => by
      cases v with
      | _ => rfl
  | number _, v => by
      cases v with
      | float x =>
        by_cases hx : x.isFinite
        · simp only [unnamed, validate, if_pos hx, Option.map_none]
        · simp only [unnamed, validate, if_neg hx]
          rfl
      | _ => rfl
  | integer _ _ low high, v => by
      cases v with
      | int i =>
        by_cases hi : low ≤ i ∧ i ≤ high
        · simp only [unnamed, validate, if_pos hi, Option.map_none]
        · simp only [unnamed, validate, if_neg hi]
          rfl
      | _ => rfl
  | enum _ labels, v => by
      cases v with
      | str s =>
        by_cases hs : labels.contains s
        · simp only [unnamed, validate, if_pos hs, Option.map_none]
        · simp only [unnamed, validate, if_neg hs]
          rfl
      | _ => rfl
  | struct _ fields, v => by
      cases v with
      | dict entries =>
        simp only [unnamed, validate, undeclared_unnamedFields]
        cases undeclared fields entries with
        | nil => exact validateFields_unnamed fields entries
        | cons key keys => rfl
      | _ => rfl
  | pair _ first second, v => by
      rcases pair_shape v with ⟨a, b, hv⟩ | ⟨reason, h⟩
      · rw [unnamed, validate_pair hv, validate_pair hv, validate_unnamed first a,
          validate_unnamed second b]
        cases first.validate a with
        | some m => rfl
        | none =>
          cases second.validate b with
          | some m => rfl
          | none => rfl
      · rw [unnamed, h, h]
        rfl
  | vector _ length element, v => by
      rcases vector_shape length v with ⟨items, hv, hlength⟩ | ⟨reason, h⟩
      · rw [unnamed, validate_vector hv hlength, validate_vector hv hlength]
        exact firstMismatch_unnamed (validate_unnamed element) 0 items
      · rw [unnamed, h, h]
        rfl
  | maybe _ inner, v => by
      cases v with
      | just w => exact validate_unnamed inner w
      | _ => rfl

theorem validateFields_unnamed : (fields : List (String × Descriptor)) →
    (entries : List (Value × Value)) →
    validateFields (unnamedFields fields) entries =
      (validateFields fields entries).map Mismatch.unnamed
  | [], _ => rfl
  | (name, d) :: fields, entries => by
      rw [unnamedFields, validateFields, validateFields]
      cases Value.lookupText entries name with
      | none => rfl
      | some w =>
        simp only [validate_unnamed d w]
        cases d.validate w with
        | none => exact validateFields_unnamed fields entries
        | some m => rfl
end

/-- The same values conform. -/
theorem conforms_unnamed (d : Descriptor) (v : Value) : d.unnamed.conforms v = d.conforms v := by
  rw [conforms, conforms, validate_unnamed, Option.isNone_map]

/-! ## Functions -/

mutual
/-- The first function stands at the same place. -/
theorem firstFunction?_unnamed : (d : Descriptor) →
    d.unnamed.firstFunction? = d.firstFunction?.map fun found => (found.1, found.2.unnamed)
  | boolean _ | string _ | number _ | integer .. | enum .. | fn .. => rfl
  | struct _ fields => by
      rw [unnamed, firstFunction?, firstFunction?, firstFieldFunction?_unnamed fields]
  | pair _ first second => by
      rw [unnamed, firstFunction?, firstFunction?, firstFunction?_unnamed first,
        firstFunction?_unnamed second]
      cases first.firstFunction? with
      | some found => rfl
      | none =>
        cases second.firstFunction? with
        | some found => rfl
        | none => rfl
  | vector _ _ element => by
      rw [unnamed, firstFunction?, firstFunction?, firstFunction?_unnamed element]
      cases element.firstFunction? with
      | some found => rfl
      | none => rfl
  | maybe _ inner => by
      rw [unnamed, firstFunction?, firstFunction?, firstFunction?_unnamed inner]

theorem firstFieldFunction?_unnamed : (fields : List (String × Descriptor)) →
    firstFieldFunction? (unnamedFields fields) =
      (firstFieldFunction? fields).map fun found => (found.1, found.2.unnamed)
  | [] => rfl
  | (n, d) :: fields => by
      rw [unnamedFields, firstFieldFunction?, firstFieldFunction?, firstFunction?_unnamed d,
        firstFieldFunction?_unnamed fields]
      cases d.firstFunction? with
      | some found => rfl
      | none => rfl
end

/-- A display name hides no function. -/
theorem not_hasFunction_unnamed {d : Descriptor} :
    ¬ d.unnamed.HasFunction ↔ ¬ d.HasFunction := by
  rw [← firstFunction?_eq_none_iff, ← firstFunction?_eq_none_iff, firstFunction?_unnamed,
    Option.map_eq_none_iff]

/-! ## Drawing -/

section

variable (s : Sampling)

mutual
/-- The same is drawn. -/
theorem sample_unnamed : (d : Descriptor) → sample s d.unnamed = sample s d
  | boolean _ | string _ | number _ | integer .. | enum .. | fn .. => rfl
  | struct _ fields => by
      rw [unnamed, sample, sample, sampleFields_unnamed fields]
  | pair _ first second => by
      rw [unnamed, sample, sample, sample_unnamed first, sample_unnamed second]
  | vector _ _ element => by
      rw [unnamed, sample, sample, sample_unnamed element]
  | maybe _ inner => by
      rw [unnamed, sample, sample, sample_unnamed inner]

theorem sampleFields_unnamed : (fields : List (String × Descriptor)) →
    sampleFields s (unnamedFields fields) = sampleFields s fields
  | [] => rfl
  | (_, d) :: fields => by
      rw [unnamedFields, sampleFields, sampleFields, sample_unnamed d, sampleFields_unnamed fields]
end

variable {s}

/-- Where no function stands, nothing tells the names apart. -/
theorem generate_unnamed {d : Descriptor} (hd : ¬ d.HasFunction) :
    generate s d.unnamed = generate s d := by
  rw [generate_eq_sample s hd, generate_eq_sample s (not_hasFunction_unnamed.mpr hd),
    sample_unnamed]

theorem generateAll_unnamed : {ds : List Descriptor} → (∀ d ∈ ds, ¬ d.HasFunction) →
    generateAll s (ds.map unnamed) = generateAll s ds
  | [], _ => rfl
  | d :: ds, hds => by
      obtain ⟨hd, hrest⟩ := List.forall_mem_cons.mp hds
      rw [List.map_cons, generateAll, generateAll, generate_unnamed hd, generateAll_unnamed hrest]

end

/-! ## Parts -/

/-- A field is found under its name, which is no display name. -/
theorem field?_unnamedFields (fields : List (String × Descriptor)) (name : String) :
    field? (unnamedFields fields) name = (field? fields name).map unnamed := by
  induction fields with
  | nil => rfl
  | cons f fields ih =>
    rw [unnamedFields, field?_cons, field?_cons, ih]
    split
    · rfl
    · rfl

/-- To stand under a segment has nothing to do with display names. -/
theorem under_unnamed (segment : Segment) (leaves : List (Path × Descriptor)) :
    under segment (leaves.map fun leaf => (leaf.1, leaf.2.unnamed)) =
      (under segment leaves).map fun leaf => (leaf.1, leaf.2.unnamed) := by
  simp only [under, List.map_map]
  rfl

mutual
/-- The leaves stand at the same places, in the same order. -/
theorem leafPaths_unnamed : (d : Descriptor) →
    d.unnamed.leafPaths = d.leafPaths.map fun leaf => (leaf.1, leaf.2.unnamed)
  | boolean _ | string _ | number _ | integer .. | enum .. | maybe .. | fn .. => rfl
  | struct _ fields => by
      rw [unnamed, leafPaths, leafPaths, fieldLeafPaths_unnamed fields]
  | pair _ first second => by
      rw [unnamed, leafPaths, leafPaths, leafPaths_unnamed first, leafPaths_unnamed second,
        under_unnamed, under_unnamed, List.map_append]
  | vector _ _ element => by
      simp only [unnamed, leafPaths, leafPaths_unnamed element, under_unnamed, List.map_flatMap]

theorem fieldLeafPaths_unnamed : (fields : List (String × Descriptor)) →
    fieldLeafPaths (unnamedFields fields) =
      (fieldLeafPaths fields).map fun leaf => (leaf.1, leaf.2.unnamed)
  | [] => rfl
  | (_, d) :: fields => by
      rw [unnamedFields, fieldLeafPaths, fieldLeafPaths, leafPaths_unnamed d,
        fieldLeafPaths_unnamed fields, under_unnamed, List.map_append]
end

/-- The same steps lead to the same part. -/
theorem along_unnamed (d : Descriptor) (steps : List Step) :
    d.unnamed.along steps = (d.along steps).map unnamed := by
  induction steps generalizing d with
  | nil =>
    cases d with
    | _ => rfl
  | cons step steps ih =>
    cases d with
    | boolean | string | number | integer | enum | fn => simp [unnamed, along]
    | struct n fields =>
      cases step with
      | inner => rfl
      | key k =>
        cases k with
        | str name =>
          rw [unnamed, along, along, field?_unnamedFields]
          cases field? fields name with
          | none => rfl
          | some e => exact ih e
        | _ => rfl
    | pair n first second =>
      cases step with
      | inner => rfl
      | key k =>
        rw [unnamed, along, along]
        split
        · exact ih first
        · exact ih first
        · exact ih second
        · exact ih second
        · rfl
    | vector n length element =>
      cases step with
      | inner => rfl
      | key k =>
        rw [unnamed, along, along]
        exact ih element
    | maybe n inner =>
      cases step with
      | inner => exact ih inner
      | key k => simp [unnamed, along]

/-! ## Redrawing -/

/-- Looking up an entry comes to the same, but for the names in its field. -/
theorem fieldAt_unnamedFields (fields : List (String × Descriptor)) (v : Value) (name : String) :
    fieldAt (unnamedFields fields) v name =
      (fieldAt fields v name).map fun found => (found.1, found.2.1.unnamed, found.2.2) := by
  unfold fieldAt
  rw [field?_unnamedFields]
  cases v with
  | dict entries =>
    cases field? fields name with
    | none => rfl
    | some d =>
      dsimp only [Option.map_some]
      cases Value.lookupText entries name with
      | none => rfl
      | some w => rfl
  | _ =>
    dsimp only
    rw [Option.isSome_map]
    generalize entriesOf _ = copied
    cases copied with
    | error error => rfl
    | ok entries => rfl

/-- A field that is redrawn is declared. -/
theorem field?_of_fieldAt {fields : List (String × Descriptor)} {v w : Value} {name : String}
    {entries : List (Value × Value)} {d : Descriptor}
    (h : fieldAt fields v name = .ok (entries, d, w)) : field? fields name = some d := by
  unfold fieldAt at h
  cases v with
  | dict others =>
    dsimp only at h
    split at h
    · next e u he hu =>
      obtain ⟨-, rfl, -⟩ : others = entries ∧ e = d ∧ u = w := by simpa using h
      exact he
    · cases h
  | _ =>
    dsimp only at h
    generalize entriesOf _ = copied at h
    cases copied with
    | error error => cases h
    | ok entries => cases h

/-- Redrawing a part that holds no function. -/
theorem generateAt_unnamed {s : Sampling} (path : Path) {d e : Descriptor} (v : Value)
    (h : d.descriptorAt path = .ok e) (he : ¬ e.HasFunction) :
    generateAt s path d.unnamed v = generateAt s path d v := by
  induction path generalizing d v with
  | nil =>
    obtain rfl : d = e := Except.ok.inj h
    exact generate_unnamed he
  | cons segment path ih =>
    -- a step that can be taken is not refused, and only a refusal writes the descriptor
    rw [descriptorAt] at h
    split at h
    · next f hf =>
      cases d with
      | boolean | string | number | integer | enum | maybe | fn => simp [stepInto] at hf
      | struct n fields =>
        obtain ⟨m, rfl, hm⟩ := stepInto_struct hf
        simp only [unnamed, generateAt, fieldAt_unnamedFields]
        rcases hfound : fieldAt fields v m with error | ⟨entries, g, w⟩
        · rfl
        · obtain rfl : g = f := Option.some.inj ((field?_of_fieldAt hfound).symm.trans hm)
          simp only [Except.map, demand_ok, pure_bind, ih w h]
      | pair n first second =>
        simp only [stepInto] at hf
        split at hf
        · next side hside =>
          obtain rfl := Except.ok.inj hf
          simp only [unnamed, generateAt, hside]
          rcases itemAt v segment.integer? with error | ⟨items, i, w⟩
          · rfl
          · have hpart := ih w h
            rw [apply_ite unnamed] at hpart
            simp only [demand_ok, pure_bind, hpart]
        · cases hf
      | vector n length element =>
        simp only [stepInto] at hf
        split at hf
        · next i hi =>
          split at hf
          · obtain rfl := Except.ok.inj hf
            simp only [unnamed, generateAt, hi]
            rcases itemAt v (some i) with error | ⟨items, j, w⟩
            · rfl
            · simp only [demand_ok, pure_bind, ih w h]
          · cases hf
        · cases hf
    · cases h

end Descriptor

/-! ## Equal descriptors -/

/-- Mismatches that tell the same, their expectations equal. -/
structure Mismatch.Alike (m n : Mismatch) : Prop where
  path : m.path = n.path
  expected : m.expected.same n.expected = true
  actual : m.actual = n.actual
  reason : m.reason = n.reason

namespace Descriptor

variable {d e : Descriptor}

/-- Descriptors are the same one by one if they are without display names. -/
theorem forall₂_same_iff {ds es : List Descriptor} :
    List.Forall₂ (fun d e => d.same e = true) ds es ↔ ds.map unnamed = es.map unnamed := by
  rw [← List.forall₂_eq_eq_eq, List.forall₂_map_left_iff, List.forall₂_map_right_iff]
  simp only [same_iff_unnamed]

/-- The same descriptors accept the same values, and depart at the same place. -/
theorem validate_alike (h : d.same e = true) (v : Value) :
    Option.Rel Mismatch.Alike (d.validate v) (e.validate v) := by
  have hunnamed : (d.validate v).map Mismatch.unnamed = (e.validate v).map Mismatch.unnamed := by
    rw [← validate_unnamed, ← validate_unnamed, (same_iff_unnamed d e).mp h]
  generalize d.validate v = told at hunnamed ⊢
  generalize e.validate v = told' at hunnamed ⊢
  rcases told with _ | m
  · rcases told' with _ | n
    · exact .none
    · cases hunnamed
  · rcases told' with _ | n
    · cases hunnamed
    · have hmn : m.unnamed = n.unnamed := Option.some.inj hunnamed
      have hexpected : m.expected.unnamed = n.expected.unnamed := congrArg (·.expected) hmn
      exact .some ⟨congrArg (·.path) hmn, (same_iff_unnamed _ _).mpr hexpected,
        congrArg (·.actual) hmn, congrArg (·.reason) hmn⟩

/-- Neither holds a function, or both are refused for one at the same place. -/
theorem ensureGenerable_alike (h : d.same e = true) :
    (¬ d.HasFunction ∧ ¬ e.HasFunction) ∨
      ∃ message message' path, d.ensureGenerable [] = .error (.unsupported message path) ∧
        e.ensureGenerable [] = .error (.unsupported message' path) := by
  have hunnamed := congrArg firstFunction? ((same_iff_unnamed d e).mp h)
  rw [firstFunction?_unnamed, firstFunction?_unnamed] at hunnamed
  rcases hd : d.firstFunction? with _ | ⟨path, f⟩
  · rcases he : e.firstFunction? with _ | found
    · exact .inl ⟨(firstFunction?_eq_none_iff d).mp hd, (firstFunction?_eq_none_iff e).mp he⟩
    · rw [hd, he] at hunnamed
      cases hunnamed
  · rcases he : e.firstFunction? with _ | ⟨path', f'⟩
    · rw [hd, he] at hunnamed
      cases hunnamed
    · rw [hd, he] at hunnamed
      obtain rfl : path = path' := congrArg (·.1) (Option.some.inj hunnamed)
      obtain ⟨message, hmessage⟩ := ensureGenerable_of_firstFunction? hd
      obtain ⟨message', hmessage'⟩ := ensureGenerable_of_firstFunction? he
      exact .inr ⟨message, message', path, hmessage, hmessage'⟩

/-- What cannot be drawn takes nothing from the source. -/
theorem runFrom_generate_of_error {error : Error} (h : d.ensureGenerable [] = .error error)
    (s : Sampling) (t : Twister) : (generate s d).runFrom t = (.error (.of error), t) := by
  rw [generate, h]
  rfl

/-- The same descriptors draw the same, or are refused for the same function. -/
theorem generate_alike (h : d.same e = true) (s : Sampling) (t : Twister) :
    (generate s d).runFrom t = (generate s e).runFrom t ∨
      ∃ message message' path,
        (generate s d).runFrom t = (.error (.of (.unsupported message path)), t) ∧
          (generate s e).runFrom t = (.error (.of (.unsupported message' path)), t) := by
  rcases ensureGenerable_alike h with ⟨hd, he⟩ | ⟨message, message', path, hd, he⟩
  · left
    rw [← generate_unnamed hd, ← generate_unnamed he, (same_iff_unnamed d e).mp h]
  · exact .inr ⟨message, message', path, runFrom_generate_of_error hd s t,
      runFrom_generate_of_error he s t⟩

/-- The same descriptors have the same leaves, one by one. -/
theorem leafPaths_alike (h : d.same e = true) :
    List.Forall₂ (fun leaf leaf' => leaf.1 = leaf'.1 ∧ leaf.2.same leaf'.2 = true)
      d.leafPaths e.leafPaths := by
  have hunnamed := congrArg leafPaths ((same_iff_unnamed d e).mp h)
  rw [leafPaths_unnamed, leafPaths_unnamed, ← List.forall₂_eq_eq_eq, List.forall₂_map_left_iff,
    List.forall₂_map_right_iff] at hunnamed
  refine hunnamed.imp fun leaf leaf' hleaf => ?_
  obtain ⟨hpath, hdescriptor⟩ := Prod.mk.inj hleaf
  exact ⟨hpath, (same_iff_unnamed _ _).mpr hdescriptor⟩

/-! ## Renamed descriptors -/

/-- A display name that is given is one that can be left out. -/
theorem unnamed_withName (d : Descriptor) (n : Option String) :
    (d.withName n).unnamed = d.unnamed := by
  cases d with
  | _ => rfl

/-- To give a proper name keeps a descriptor well-formed. -/
theorem wellFormed_withName {n : Option String} (hn : NameWellFormed n) (hd : d.WellFormed) :
    (d.withName n).WellFormed := by
  cases d with
  | boolean | string | number => exact hn
  | _ => exact ⟨hn, hd.2⟩

/-- A name that is accepted is proper. -/
theorem nameWellFormed_of_checkName {v : Value} {n : Option String} (h : checkName v = .ok n) :
    NameWellFormed n := by
  cases v with
  | nothing =>
    cases h
    exact nofun
  | str s =>
    by_cases hs : s.isEmpty
    · simp [checkName, hs, refuse] at h
    · obtain rfl : some s = n := by simpa [checkName, hs] using h
      rintro ⟨⟩
      exact hs rfl
  | _ => cases h

/-- A copy under another name is equal to the original. -/
theorem same_of_buildNamed {name : Value} {f : Descriptor} (hd : d.WellFormed)
    (h : buildNamed (.descriptor d) name = .ok f) : f.WellFormed ∧ d.same f = true := by
  rcases hn : checkName name with error | n
  · simp [buildNamed, checkComponent, hn, bind, Except.bind] at h
  · obtain rfl : d.withName n = f := by
      simpa [buildNamed, checkComponent, hn, bind, Except.bind] using h
    exact ⟨wellFormed_withName (nameWellFormed_of_checkName hn) hd,
      (same_iff_unnamed _ _).mpr (unnamed_withName d n).symm⟩

end Descriptor

end Conformance
