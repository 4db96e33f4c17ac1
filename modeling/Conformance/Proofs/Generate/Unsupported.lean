import Conformance.Proofs.Generate.PointUpdate

/-!
# Conformance.Proofs.Generate.Unsupported

Which descriptors values cannot be drawn for.

`functions` lists the functions of a descriptor in the order of declaration,
each with the path to it; it lists what `FunctionAt` says is there
(`mem_functions`), and the function that a descriptor is refused for is the
first of them (`firstFunction?_eq_head?`).

1. Where there is a function, drawing is refused before anything is drawn.
2. Where there is none, drawing never comes to what it has no rule for.  To
   say so, `sampleOr` leaves open what becomes of such a descriptor: whatever
   that is, the draw is the same.
-/

namespace Conformance.Descriptor

/-! ## The functions of a descriptor -/

/-- A function stands at a path of a descriptor.  The items of a vector are
all alike and stand at index 0, and a `maybe` adds no segment. -/
inductive FunctionAt : Descriptor → Path → Descriptor → Prop
  | here (n : Option String) (input output : Descriptor) :
    FunctionAt (fn n input output) [] (fn n input output)
  | field {n fields name e path f} (hmem : (name, e) ∈ fields) (h : FunctionAt e path f) :
    FunctionAt (struct n fields) (.field name :: path) f
  | first {n first second path f} (h : FunctionAt first path f) :
    FunctionAt (pair n first second) (.index 0 :: path) f
  | second {n first second path f} (h : FunctionAt second path f) :
    FunctionAt (pair n first second) (.index 1 :: path) f
  | element {n length element path f} (h : FunctionAt element path f) :
    FunctionAt (vector n length element) (.index 0 :: path) f
  | inner {n inner path f} (h : FunctionAt inner path f) : FunctionAt (maybe n inner) path f

mutual
/-- The functions of a descriptor with their paths, in the order of declaration. -/
def functions : Descriptor → List (Path × Descriptor)
  | fn n input output => [([], fn n input output)]
  | struct _ fields => fieldFunctions fields
  | pair _ first second =>
    under (.index 0) (functions first) ++ under (.index 1) (functions second)
  | vector _ _ element => under (.index 0) (functions element)
  | maybe _ inner => functions inner
  | _ => []
/-- The functions of fields. -/
def fieldFunctions : List (String × Descriptor) → List (Path × Descriptor)
  | [] => []
  | (n, d) :: fields => under (.field n) (functions d) ++ fieldFunctions fields
end

mutual
/-- What is listed is what is there. -/
theorem mem_functions : (d : Descriptor) → (path : Path) → (f : Descriptor) →
    ((path, f) ∈ d.functions ↔ d.FunctionAt path f)
  | boolean _, path, f | string _, path, f | number _, path, f | integer .., path, f
  | enum .., path, f => by
      simp only [functions, List.not_mem_nil, false_iff]
      exact nofun
  | fn n input output, path, f => by
      rw [functions, List.mem_singleton]
      constructor
      · rintro ⟨⟩
        exact .here n input output
      · rintro ⟨⟩
        rfl
  | struct n fields, path, f => by
      rw [functions, mem_fieldFunctions fields]
      constructor
      · rintro ⟨name, e, below, hmem, rfl, h⟩
        exact .field hmem h
      · intro h
        cases h with
        | field hmem h => exact ⟨_, _, _, hmem, rfl, h⟩
  | pair n first second, path, f => by
      simp only [functions, List.mem_append, mem_under, mem_functions first, mem_functions second]
      constructor
      · rintro (⟨below, rfl, h⟩ | ⟨below, rfl, h⟩)
        · exact .first h
        · exact .second h
      · intro h
        cases h with
        | first h => exact .inl ⟨_, rfl, h⟩
        | second h => exact .inr ⟨_, rfl, h⟩
  | vector n length element, path, f => by
      simp only [functions, mem_under, mem_functions element]
      constructor
      · rintro ⟨below, rfl, h⟩
        exact .element h
      · intro h
        cases h with
        | element h => exact ⟨_, rfl, h⟩
  | maybe n inner, path, f => by
      rw [functions, mem_functions inner]
      constructor
      · exact .inner
      · intro h
        cases h with
        | inner h => exact h

/-- The functions of fields are those of each field, one segment further down. -/
theorem mem_fieldFunctions : (fields : List (String × Descriptor)) → (path : Path) →
    (f : Descriptor) → ((path, f) ∈ fieldFunctions fields ↔
      ∃ name e below, (name, e) ∈ fields ∧ path = .field name :: below ∧ e.FunctionAt below f)
  | [], path, f => by simp [fieldFunctions]
  | (n, d) :: fields, path, f => by
      simp only [fieldFunctions, List.mem_append, mem_under, mem_functions d,
        mem_fieldFunctions fields]
      constructor
      · rintro (⟨below, rfl, h⟩ | ⟨name, e, below, hmem, rfl, h⟩)
        · exact ⟨n, d, below, List.mem_cons_self, rfl, h⟩
        · exact ⟨name, e, below, List.mem_cons_of_mem _ hmem, rfl, h⟩
      · rintro ⟨name, e, below, hmem, rfl, h⟩
        rcases List.mem_cons.mp hmem with heq | hmem
        · obtain ⟨rfl, rfl⟩ := Prod.mk.inj heq
          exact .inl ⟨below, rfl, h⟩
        · exact .inr ⟨name, e, below, hmem, rfl, h⟩
end

mutual
/-- The function that is found is the first one listed. -/
theorem firstFunction?_eq_head? : (d : Descriptor) → d.firstFunction? = d.functions.head?
  | boolean _ | string _ | number _ | integer .. | enum .. | fn .. => rfl
  | struct _ fields => by rw [firstFunction?, functions, firstFieldFunction?_eq_head? fields]
  | pair _ first second => by
      rw [firstFunction?, functions, firstFunction?_eq_head? first, firstFunction?_eq_head? second]
      cases first.functions with
      | nil => exact List.head?_map.symm
      | cons found rest => rfl
  | vector _ _ element => by
      rw [firstFunction?, functions, firstFunction?_eq_head? element, under, List.head?_map]
  | maybe _ inner => by rw [firstFunction?, functions, firstFunction?_eq_head? inner]

theorem firstFieldFunction?_eq_head? : (fields : List (String × Descriptor)) →
    firstFieldFunction? fields = (fieldFunctions fields).head?
  | [] => rfl
  | (n, d) :: fields => by
      rw [firstFieldFunction?, fieldFunctions, firstFunction?_eq_head? d,
        firstFieldFunction?_eq_head? fields]
      cases d.functions with
      | nil => rfl
      | cons found rest => rfl
end

/-- There is no function exactly if none is listed. -/
theorem not_hasFunction_iff {d : Descriptor} : ¬ d.HasFunction ↔ d.functions = [] := by
  rw [← firstFunction?_eq_none_iff, firstFunction?_eq_head?, List.head?_eq_none_iff]

/-! ## Drawing without rules left out -/

/-- Draws a value of a primitive kind: in its range, if there is one.
`other` is what becomes of a kind that has to have a range and has none. -/
def samplePrimitive (other : Draw Value) (s : Sampling) : Kind → Option (Int × Int) → Draw Value
  | _, some (low, high) => do
    let i ← Draw.between s.patience low high
    pure (.int i)
  | .boolean, none => do
    let u ← Draw.unit
    pure (.bool (u < 0.5))
  | .string, none => do
    let length ← Draw.between s.patience 0 s.maxStringLength
    let cs ← Draw.times length.toNat (Draw.choose s.patience alphabet)
    pure (.str (String.ofList cs))
  | .number, none => do
    let x ← Draw.uniform s.numberMin s.numberMax
    pure (.float x)
  | .integer _, none => other

mutual
/-- Draws a value for a descriptor.  `other` is what becomes of a descriptor
that there is no rule for. -/
def sampleOr (other : Descriptor → Draw Value) (s : Sampling) : Descriptor → Draw Value
  | boolean n => samplePrimitive (other (boolean n)) s .boolean none
  | string n => samplePrimitive (other (string n)) s .string none
  | number n => samplePrimitive (other (number n)) s .number none
  | integer n kind low high =>
    samplePrimitive (other (integer n kind low high)) s (.integer kind) (some (low, high))
  | enum _ labels => do
    let label ← Draw.choose s.patience labels
    pure (.str label)
  | struct _ fields => do
    let entries ← sampleFieldsOr other s fields
    pure (.dict entries)
  | pair _ first second => do
    let a ← sampleOr other s first
    let b ← sampleOr other s second
    pure (.tuple [a, b])
  | vector _ length element => do
    let items ← Draw.times length (sampleOr other s element)
    pure (.list items)
  | maybe _ inner => do
    let u ← Draw.unit
    if u < s.nothingProbability then pure .nothing
    else do
      let v ← sampleOr other s inner
      pure (.just v)
  | fn n input output => other (fn n input output)
/-- Draws the entries of a struct, field by field. -/
def sampleFieldsOr (other : Descriptor → Draw Value) (s : Sampling) :
    List (String × Descriptor) → Draw (List (Value × Value))
  | [] => pure []
  | (n, d) :: fields => do
    let v ← sampleOr other s d
    let entries ← sampleFieldsOr other s fields
    pure ((.str n, v) :: entries)
end

mutual
/-- Only at a function does it matter what `other` is; there, drawing gives up. -/
theorem sampleOr_eq_sample (other : Descriptor → Draw Value) (s : Sampling) :
    (d : Descriptor) → (d.HasFunction → ∀ f, other f = throw .unfinished) →
    sampleOr other s d = sample s d
  | boolean _, _ | string _, _ | number _, _ | integer .., _ | enum .., _ => rfl
  | struct _ fields, h => by
      rw [sampleOr, sample, sampleFieldsOr_eq_sampleFields other s fields h]
  | pair _ first second, h => by
      rw [sampleOr, sample, sampleOr_eq_sample other s first fun hf => h (.inl hf),
        sampleOr_eq_sample other s second fun hf => h (.inr hf)]
  | vector _ length element, h => by
      rw [sampleOr, sample, sampleOr_eq_sample other s element h]
  | maybe _ inner, h => by
      rw [sampleOr, sample, sampleOr_eq_sample other s inner h]
  | fn .., h => by
      rw [sampleOr, sample]
      exact h trivial _

/-- Where no function stands in fields, what it would draw does not matter. -/
theorem sampleFieldsOr_eq_sampleFields (other : Descriptor → Draw Value) (s : Sampling) :
    (fields : List (String × Descriptor)) →
    (FieldsHaveFunction fields → ∀ f, other f = throw .unfinished) →
    sampleFieldsOr other s fields = sampleFields s fields
  | [], _ => rfl
  | (n, d) :: fields, h => by
      rw [sampleFieldsOr, sampleFields, sampleOr_eq_sample other s d fun hf => h (.inl hf),
        sampleFieldsOr_eq_sampleFields other s fields fun hf => h (.inr hf)]
end

/-! ## Refusal -/

/-- A descriptor with functions is refused for the first of them, and the
source stays where it is. -/
theorem generate_of_functions (s : Sampling) {d f : Descriptor} {path : Path}
    {rest : List (Path × Descriptor)} (h : d.functions = (path, f) :: rest) (t : Twister) :
    (generate s d).runFrom t = (.error (.of (.unsupported
      ("cannot generate a value for function type " ++ f.render ++ " at " ++
        Path.place path.text) path)), t) := by
  have hfound : d.firstFunction? = some (path, f) := by
    rw [firstFunction?_eq_head?, h, List.head?_cons]
  have hplain : path.all Segment.isNameOrInteger :=
    Path.isNameOrInteger_of_isPlain (all_isPlain_of_firstFunction? d path f hfound)
  obtain ⟨text, hrender⟩ := Option.isSome_iff_exists.mp (Path.render?_isSome hplain)
  have htext : path.text = text := by rw [Path.text, hrender, Option.getD_some]
  have hrefused : d.ensureGenerable [] = .error (.unsupported
      ("cannot generate a value for function type " ++ f.render ++ " at " ++
        Path.place path.text) path) := by
    rw [ensureGenerable, hfound, htext]
    simp only [List.nil_append, Path.render, hrender]
    rfl
  rw [generate, hrefused]
  rfl

/-- Whether a value can be drawn is decided by the descriptor alone.

1. It is refused exactly if a function stands somewhere in it.
2. It is refused for the first function in the order of declaration, with the
   path to it, and the source stays as it was.
3. Where no function stands, drawing comes to nothing that there is no rule
   for: whatever became of it, the draw would be the same. -/
theorem generate_decided (s : Sampling) (d : Descriptor) (t : Twister) :
    (∀ path f, (path, f) ∈ d.functions ↔ d.FunctionAt path f) ∧
    ((∃ message path, ((generate s d).runFrom t).1 = .error (.of (.unsupported message path))) ↔
      ∃ path f, d.FunctionAt path f) ∧
    match d.functions with
    | (path, f) :: _ => (generate s d).runFrom t = (.error (.of (.unsupported
        ("cannot generate a value for function type " ++ f.render ++ " at " ++
          Path.place path.text) path)), t)
    | [] => ∀ other, sampleOr other s d = generate s d := by
  refine ⟨mem_functions d, ⟨?_, ?_⟩, ?_⟩
  · rintro ⟨message, path, hraised⟩
    cases h : d.functions with
    | nil =>
      rw [generate_eq_sample s (not_hasFunction_iff.mpr h)] at hraised
      cases onlyGivesUp_sample s d t _ _ (Prod.ext hraised rfl)
    | cons found rest =>
      exact ⟨found.1, found.2, (mem_functions ..).mp (h ▸ List.mem_cons_self)⟩
  · rintro ⟨path, f, hat⟩
    obtain ⟨found, rest, h⟩ :=
      List.exists_cons_of_ne_nil (List.ne_nil_of_mem ((mem_functions d path f).mpr hat))
    rw [generate_of_functions s h t]
    exact ⟨_, _, rfl⟩
  · split
    · next path f rest h => exact generate_of_functions s h t
    · next h =>
      intro other
      have hplain : ¬ d.HasFunction := not_hasFunction_iff.mpr h
      rw [generate_eq_sample s hplain]
      exact sampleOr_eq_sample other s d fun hfunction => absurd hfunction hplain

/-- The items of a vector count once, and a `maybe` adds nothing to the path. -/
example (f : Descriptor) (hf : f = fn none (boolean none) (string none)) :
    functions (struct none
      [("on", boolean none), ("act", vector none 3 (maybe none f)), ("end", f)]) =
        [([.field "act", .index 0], f), ([.field "end"], f)] := by
  subst hf
  rfl

end Conformance.Descriptor
