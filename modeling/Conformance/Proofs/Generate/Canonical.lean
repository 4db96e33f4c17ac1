import Conformance.Proofs.Descriptor.WellFormed
import Conformance.Proofs.Random.Draw
import Conformance.Proofs.Validate.Admits

/-!
# Conformance.Proofs.Generate.Canonical

The form of drawn values, and that they conform.

1. A value that is drawn is `Canonical`: at every position it has the one
   form that drawing gives, down to the order of keys (`canonical_of_sample`).
2. A canonical value is one of the values of its descriptor
   (`admits_of_canonical`), provided that its doubles are finite.  Whether
   they are depends on the bounds of the settings, so `Canonical` leaves the
   quality of doubles open, and `NumberDrawn` tells which doubles a draw meets.

Both go by the structure of the descriptor, as drawing and validation do.
-/

namespace Conformance.Descriptor

/-! ## Canonical values -/

mutual
/-- The form of a value drawn for a descriptor; its doubles satisfy `good`. -/
def Canonical (s : Sampling) (good : Float → Prop) : Descriptor → Value → Prop
  | boolean _, v => ∃ b, v = .bool b
  | string _, v => ∃ x, v = .str x ∧ x.length ≤ s.maxStringLength ∧ ∀ c ∈ x.toList, c ∈ alphabet
  | number _, v => ∃ x, v = .float x ∧ good x
  | integer _ _ low high, v => ∃ i, v = .int i ∧ low ≤ i ∧ i ≤ high
  | enum _ labels, v => ∃ label ∈ labels, v = .str label
  | struct _ fields, v => ∃ entries, v = .dict entries ∧ CanonicalEntries s good fields entries
  | pair _ first second, v =>
    ∃ a b, v = .tuple [a, b] ∧ Canonical s good first a ∧ Canonical s good second b
  | vector _ length element, v =>
    ∃ items, v = .list items ∧ items.length = length ∧ ∀ w ∈ items, Canonical s good element w
  | maybe _ inner, v => v = .nothing ∨ ∃ w, v = .just w ∧ Canonical s good inner w
  | fn .., _ => False
/-- The form of the entries drawn for fields: exactly their names, in their order. -/
def CanonicalEntries (s : Sampling) (good : Float → Prop) :
    List (String × Descriptor) → List (Value × Value) → Prop
  | [], entries => entries = []
  | (n, d) :: fields, entries =>
    ∃ v rest, entries = (.str n, v) :: rest ∧ Canonical s good d v ∧
      CanonicalEntries s good fields rest
end

/-- `x` is a double that `Draw.uniform` yields while a value is drawn for a
descriptor from a source. -/
inductive NumberDrawn (s : Sampling) : Descriptor → Twister → Float → Prop
  | number {n t x t'} (h : (Draw.uniform s.numberMin s.numberMax).runFrom t = (.ok x, t')) :
    NumberDrawn s (number n) t x
  | field {n before name d after t entries t' x}
    (h : (sampleFields s before).runFrom t = (.ok entries, t')) (hx : NumberDrawn s d t' x) :
    NumberDrawn s (struct n (before ++ (name, d) :: after)) t x
  | first {n first second t x} (hx : NumberDrawn s first t x) :
    NumberDrawn s (pair n first second) t x
  | second {n first second t v t' x} (h : (sample s first).runFrom t = (.ok v, t'))
    (hx : NumberDrawn s second t' x) : NumberDrawn s (pair n first second) t x
  | item {n length element t k items t' x} (hk : k < length)
    (h : (Draw.times k (sample s element)).runFrom t = (.ok items, t'))
    (hx : NumberDrawn s element t' x) : NumberDrawn s (vector n length element) t x
  | inner {n inner t u t' x} (h : Draw.unit.runFrom t = (.ok u, t'))
    (hu : ¬ u < s.nothingProbability) (hx : NumberDrawn s inner t' x) :
    NumberDrawn s (maybe n inner) t x

/-! ## Drawn values are canonical -/

section

variable {s : Sampling} {good : Float → Prop}

mutual
/-- What is drawn for a descriptor is canonical. -/
theorem canonical_of_sample : (d : Descriptor) → (t : Twister) → (v : Value) → (t' : Twister) →
    (sample s d).runFrom t = (.ok v, t') → (∀ x, NumberDrawn s d t x → good x) →
    d.Canonical s good v
  | boolean _, t, v, t', h, _ => by
      simp only [sample, Draw.runFrom_bind_ok, Draw.runFrom_pure] at h
      obtain ⟨u, t₁, -, h⟩ := h
      cases h
      exact ⟨_, rfl⟩
  | string _, t, v, t', h, _ => by
      simp only [sample, Draw.runFrom_bind_ok, Draw.runFrom_pure] at h
      obtain ⟨length, t₁, hlength, cs, t₂, hcs, h⟩ := h
      cases h
      have hrange := Draw.mem_range_of_runFrom_between hlength
      refine ⟨_, rfl, ?_, ?_⟩
      · rw [String.length_ofList, Draw.length_of_runFrom_times _ hcs]
        omega
      · rw [String.toList_ofList]
        exact Draw.forall_of_runFrom_times _
          (fun _ _ _ _ _ _ _ hc => Draw.mem_of_runFrom_choose hc) hcs
  | number _, t, v, t', h, hgood => by
      simp only [sample, Draw.runFrom_bind_ok, Draw.runFrom_pure] at h
      obtain ⟨x, t₁, hx, h⟩ := h
      cases h
      exact ⟨x, rfl, hgood x (.number hx)⟩
  | integer _ _ low high, t, v, t', h, _ => by
      simp only [sample, Draw.runFrom_bind_ok, Draw.runFrom_pure] at h
      obtain ⟨i, t₁, hi, h⟩ := h
      cases h
      exact ⟨i, rfl, Draw.mem_range_of_runFrom_between hi⟩
  | enum _ labels, t, v, t', h, _ => by
      simp only [sample, Draw.runFrom_bind_ok, Draw.runFrom_pure] at h
      obtain ⟨label, t₁, hlabel, h⟩ := h
      cases h
      exact ⟨label, Draw.mem_of_runFrom_choose hlabel, rfl⟩
  | struct _ fields, t, v, t', h, hgood => by
      simp only [sample, Draw.runFrom_bind_ok, Draw.runFrom_pure] at h
      obtain ⟨entries, t₁, hentries, h⟩ := h
      cases h
      refine ⟨entries, rfl, canonicalEntries_of_sampleFields fields t entries t' hentries ?_⟩
      rintro before name d after rfl vs t₂ hbefore x hx
      exact hgood x (.field hbefore hx)
  | pair _ first second, t, v, t', h, hgood => by
      simp only [sample, Draw.runFrom_bind_ok, Draw.runFrom_pure] at h
      obtain ⟨a, t₁, ha, b, t₂, hb, h⟩ := h
      cases h
      refine ⟨a, b, rfl, canonical_of_sample first t a t₁ ha ?_,
        canonical_of_sample second t₁ b t' hb ?_⟩
      · exact fun x hx => hgood x (.first hx)
      · exact fun x hx => hgood x (.second ha hx)
  | vector _ length element, t, v, t', h, hgood => by
      simp only [sample, Draw.runFrom_bind_ok, Draw.runFrom_pure] at h
      obtain ⟨items, t₁, hitems, h⟩ := h
      cases h
      refine ⟨items, rfl, Draw.length_of_runFrom_times _ hitems, ?_⟩
      refine Draw.forall_of_runFrom_times _ (fun k hk ys t₂ hys w t₃ hw => ?_) hitems
      exact canonical_of_sample element t₂ w t₃ hw fun x hx => hgood x (.item hk hys hx)
  | maybe _ inner, t, v, t', h, hgood => by
      simp only [sample, Draw.runFrom_bind_ok] at h
      obtain ⟨u, t₁, hu, h⟩ := h
      split at h
      · simp only [Draw.runFrom_pure] at h
        cases h
        exact .inl rfl
      · next hle =>
        simp only [Draw.runFrom_bind_ok, Draw.runFrom_pure] at h
        obtain ⟨w, t₂, hw, h⟩ := h
        cases h
        refine .inr ⟨w, rfl, canonical_of_sample inner t₁ w t' hw ?_⟩
        exact fun x hx => hgood x (.inner hu hle hx)
  | fn .., t, v, t', h, _ => by
      simp [sample] at h

/-- What is drawn for fields is canonical entry by entry, if the doubles on the way are good. -/
theorem canonicalEntries_of_sampleFields : (fields : List (String × Descriptor)) →
    (t : Twister) → (entries : List (Value × Value)) → (t' : Twister) →
    (sampleFields s fields).runFrom t = (.ok entries, t') →
    (∀ before name d after, fields = before ++ (name, d) :: after → ∀ vs t₁,
      (sampleFields s before).runFrom t = (.ok vs, t₁) → ∀ x, NumberDrawn s d t₁ x → good x) →
    CanonicalEntries s good fields entries
  | [], t, entries, t', h, _ => by
      simp only [sampleFields, Draw.runFrom_pure] at h
      cases h
      rfl
  | (n, d) :: fields, t, entries, t', h, hgood => by
      simp only [sampleFields, Draw.runFrom_bind_ok, Draw.runFrom_pure] at h
      obtain ⟨v, t₁, hv, rest, t₂, hrest, h⟩ := h
      cases h
      refine ⟨v, rest, rfl, canonical_of_sample d t v t₁ hv ?_,
        canonicalEntries_of_sampleFields fields t₁ rest t' hrest ?_⟩
      · exact hgood [] n d fields rfl [] t rfl
      · rintro before name e after rfl vs t₃ hvs
        refine hgood ((n, d) :: before) name e after rfl ((.str n, v) :: vs) t₃ ?_
        simp only [sampleFields, Draw.runFrom_bind_ok]
        exact ⟨v, t₁, hv, vs, t₃, hvs, rfl⟩
end

/-! ## Entries by name -/

/-- The first entry under a name is the one that is found. -/
theorem lookupText_cons (n m : String) (v : Value) (entries : List (Value × Value)) :
    Value.lookupText ((.str n, v) :: entries) m =
      if n = m then some v else Value.lookupText entries m := by
  unfold Value.lookupText Value.lookup
  rw [List.find?_cons]
  by_cases h : n = m
  · simp [Value.same, h]
  · have hne : (n == m) = false := beq_false_of_ne h
    simp [Value.same, h, hne]

/-- Canonical entries have the keys of the fields, in their order. -/
theorem keys_of_canonicalEntries : {fields : List (String × Descriptor)} →
    {entries : List (Value × Value)} → CanonicalEntries s good fields entries →
    entries.map (·.1) = fields.map fun f => .str f.1
  | [], _, h => by
      obtain rfl : _ = [] := h
      rfl
  | (n, d) :: fields, _, h => by
      obtain ⟨v, rest, rfl, -, hrest⟩ := h
      rw [List.map_cons, List.map_cons, keys_of_canonicalEntries hrest]

/-- Names that do not repeat find the entries of their own fields. -/
theorem lookupText_of_canonicalEntries : {fields : List (String × Descriptor)} →
    {entries : List (Value × Value)} → CanonicalEntries s good fields entries →
    (fields.map (·.1)).Nodup → ∀ n d, (n, d) ∈ fields →
    ∃ v, Value.lookupText entries n = some v ∧ d.Canonical s good v
  | [], _, _, _ => by simp
  | (m, e) :: fields, _, h, hnodup => by
      obtain ⟨v, rest, rfl, hv, hrest⟩ := h
      obtain ⟨hm, hfields⟩ := List.nodup_cons.mp hnodup
      intro n d hmem
      rw [lookupText_cons]
      rcases List.mem_cons.mp hmem with heq | hmem
      · obtain ⟨rfl, rfl⟩ := Prod.mk.inj heq
        exact ⟨v, if_pos rfl, hv⟩
      · have hne : m ≠ n := fun he => hm (he ▸ List.mem_map_of_mem (f := (·.1)) hmem)
        rw [if_neg hne]
        exact lookupText_of_canonicalEntries hrest hfields n d hmem

/-- Drawn entries have no key but the names of the fields. -/
theorem declares_of_canonicalEntries {fields : List (String × Descriptor)}
    {entries : List (Value × Value)} (h : CanonicalEntries s good fields entries) :
    Declares fields entries := by
  intro key hkey
  rw [keys_of_canonicalEntries h] at hkey
  obtain ⟨f, hf, rfl⟩ := List.mem_map.mp hkey
  exact ⟨f, hf, rfl⟩

end

/-! ## Canonical values conform -/

section

variable {s : Sampling}

mutual
/-- A canonical value with finite doubles is a value of the descriptor. -/
theorem admits_of_canonical : (d : Descriptor) → d.WellFormed → (v : Value) →
    d.Canonical s (fun x => x.isFinite) v → d.Admits v
  | boolean n, _, _, h => by
      obtain ⟨b, rfl⟩ := h
      exact .boolean n b
  | string n, _, _, h => by
      obtain ⟨x, rfl, -, -⟩ := h
      exact .string n x
  | number _, _, _, h => by
      obtain ⟨x, rfl, hx⟩ := h
      exact .finite hx
  | integer .., _, _, h => by
      obtain ⟨i, rfl, hi⟩ := h
      exact .integer hi
  | enum .., _, _, h => by
      obtain ⟨label, hlabel, rfl⟩ := h
      exact .label hlabel
  | struct _ fields, hd, _, h => by
      obtain ⟨entries, rfl, hentries⟩ := h
      obtain ⟨-, hnodup, hfields⟩ := hd
      exact admits_struct (declares_of_canonicalEntries hentries)
        (admitsEntry_of_canonical fields hfields entries
          (lookupText_of_canonicalEntries hentries hnodup))
  | pair _ first second, hd, _, h => by
      obtain ⟨a, b, rfl, ha, hb⟩ := h
      obtain ⟨-, hfirst, hsecond⟩ := hd
      exact .pair (.tuple [a, b]) (admits_of_canonical first hfirst a ha)
        (admits_of_canonical second hsecond b hb)
  | vector _ length element, hd, _, h => by
      obtain ⟨items, rfl, hlength, hitems⟩ := h
      obtain ⟨-, -, helement⟩ := hd
      exact .vector (.list items) hlength fun w hw =>
        admits_of_canonical element helement w (hitems w hw)
  | maybe n inner, hd, _, h => by
      obtain ⟨-, hinner⟩ := hd
      rcases h with rfl | ⟨w, rfl, hw⟩
      · exact .nothing n inner
      · exact .just (admits_of_canonical inner hinner w hw)
  | fn .., _, _, h => h.elim

/-- A canonical entry under each field is one that the field admits. -/
theorem admitsEntry_of_canonical : (fields : List (String × Descriptor)) →
    FieldsWellFormed fields → (entries : List (Value × Value)) →
    (∀ n d, (n, d) ∈ fields →
      ∃ v, Value.lookupText entries n = some v ∧ d.Canonical s (fun x => x.isFinite) v) →
    ∀ f ∈ fields, AdmitsEntry entries f
  | [], _, _, _ => by simp
  | (n, d) :: fields, hfields, entries, h => by
      obtain ⟨-, hd, hrest⟩ := hfields
      obtain ⟨v, hlookup, hv⟩ := h n d List.mem_cons_self
      exact List.forall_mem_cons.mpr ⟨⟨v, hlookup, admits_of_canonical d hd v hv⟩,
        admitsEntry_of_canonical fields hrest entries fun m e hmem =>
          h m e (List.mem_cons_of_mem _ hmem)⟩
end

/-- A canonical value with finite doubles conforms. -/
theorem validate_of_canonical (d : Descriptor) (hd : d.WellFormed) (v : Value)
    (h : d.Canonical s (fun x => x.isFinite) v) : d.validate v = none :=
  validate_of_admits (admits_of_canonical d hd v h)

end

/-! ## Drawing -/

mutual
/-- Drawing a value raises nothing. -/
theorem onlyGivesUp_sample (s : Sampling) : (d : Descriptor) → (sample s d).OnlyGivesUp
  | boolean _ => by
      rw [sample]
      exact Draw.onlyGivesUp_unit.bind fun _ => Draw.onlyGivesUp_pure _
  | string _ => by
      rw [sample]
      exact (Draw.onlyGivesUp_between _ _ _).bind fun _ =>
        ((Draw.onlyGivesUp_choose _ _).times _).bind fun _ => Draw.onlyGivesUp_pure _
  | number _ => by
      rw [sample]
      exact (Draw.onlyGivesUp_uniform _ _).bind fun _ => Draw.onlyGivesUp_pure _
  | integer .. => by
      rw [sample]
      exact (Draw.onlyGivesUp_between _ _ _).bind fun _ => Draw.onlyGivesUp_pure _
  | enum .. => by
      rw [sample]
      exact (Draw.onlyGivesUp_choose _ _).bind fun _ => Draw.onlyGivesUp_pure _
  | struct _ fields => by
      rw [sample]
      exact (onlyGivesUp_sampleFields s fields).bind fun _ => Draw.onlyGivesUp_pure _
  | pair _ first second => by
      rw [sample]
      exact (onlyGivesUp_sample s first).bind fun _ =>
        (onlyGivesUp_sample s second).bind fun _ => Draw.onlyGivesUp_pure _
  | vector _ length element => by
      rw [sample]
      exact ((onlyGivesUp_sample s element).times length).bind fun _ => Draw.onlyGivesUp_pure _
  | maybe _ inner => by
      rw [sample]
      refine Draw.onlyGivesUp_unit.bind fun u => ?_
      split
      · exact Draw.onlyGivesUp_pure _
      · exact (onlyGivesUp_sample s inner).bind fun _ => Draw.onlyGivesUp_pure _
  | fn .. => by
      rw [sample]
      exact Draw.onlyGivesUp_throw

theorem onlyGivesUp_sampleFields (s : Sampling) :
    (fields : List (String × Descriptor)) → (sampleFields s fields).OnlyGivesUp
  | [] => by
      rw [sampleFields]
      exact Draw.onlyGivesUp_pure _
  | (_, d) :: fields => by
      rw [sampleFields]
      exact (onlyGivesUp_sample s d).bind fun _ =>
        (onlyGivesUp_sampleFields s fields).bind fun _ => Draw.onlyGivesUp_pure _
end

/-- A descriptor without functions is drawn at once. -/
theorem generate_eq_sample (s : Sampling) {d : Descriptor} (hd : ¬ d.HasFunction) :
    generate s d = sample s d := by
  rw [generate, ensureGenerable_of_not_hasFunction hd []]
  rfl

/-- A value drawn for a descriptor without functions is canonical and
conforms, if the doubles drawn on the way are finite; a draw that yields no
value has been given up. -/
theorem generate_canonical (s : Sampling) (d : Descriptor) (source : Twister)
    (hd : d.WellFormed) (hf : ¬ d.HasFunction)
    (hx : ∀ x, NumberDrawn s d source x → x.isFinite) :
    match ((generate s d).runFrom source).1 with
    | .ok v => d.validate v = none ∧ d.Canonical s (fun x => x.isFinite) v
    | .error fault => fault = .unfinished := by
  rw [generate_eq_sample s hf]
  rcases h : (sample s d).runFrom source with ⟨fault | v, source'⟩
  · exact onlyGivesUp_sample s d source fault source' h
  · have hcanonical := canonical_of_sample d source v source' h hx
    exact ⟨validate_of_canonical d hd v hcanonical, hcanonical⟩

/-- A source all of whose words are zero. -/
def zeros : Twister := ⟨Vector.replicate 624 0, 0⟩

/-- A number beside two labels that may be absent. -/
def labelledNumber : Descriptor :=
  pair none (number none) (vector none 2 (maybe none (enum none ["hit", "miss"])))

theorem generate_canonical_zeros :
    let s : Sampling := { nothingProbability := 0.0 }
    labelledNumber.WellFormed ∧ ¬ labelledNumber.HasFunction ∧
      (∀ x, NumberDrawn s labelledNumber zeros x → x.isFinite) ∧
      ∃ v, ((generate s labelledNumber).runFrom zeros).1 = .ok v ∧
        labelledNumber.validate v = none ∧ labelledNumber.Canonical s (fun x => x.isFinite) v := by
  intro s
  have hd : labelledNumber.WellFormed := by
    simp [labelledNumber, WellFormed, NameWellFormed]
  have hf : ¬ labelledNumber.HasFunction := by
    simp [labelledNumber, HasFunction]
  have hx : ∀ x, NumberDrawn s labelledNumber zeros x → x.isFinite := by
    intro x h
    cases h with
    | first h =>
      obtain ⟨h⟩ := h
      cases h
      decide
    | second _ h =>
      obtain - | - | - | - | ⟨-, -, h⟩ := h
      obtain - | - | - | - | - | ⟨-, -, h⟩ := h
      nomatch h
  have hrun : ∃ v, ((generate s labelledNumber).runFrom zeros).1 = .ok v := by
    have hok : ((generate s labelledNumber).runFrom zeros).1.isOk = true := by decide +kernel
    rcases h : ((generate s labelledNumber).runFrom zeros).1 with fault | v
    · rw [h] at hok
      cases hok
    · exact ⟨v, rfl⟩
  have hall := generate_canonical s labelledNumber zeros hd hf hx
  obtain ⟨v, hv⟩ := hrun
  rw [hv] at hall
  exact ⟨hd, hf, hx, v, hv, hall⟩

end Conformance.Descriptor
