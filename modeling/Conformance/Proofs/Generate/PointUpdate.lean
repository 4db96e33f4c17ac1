import Conformance.Descriptor.Navigate
import Conformance.Proofs.Generate.Canonical

/-!
# Conformance.Proofs.Generate.PointUpdate

Redrawing one part of a value is drawing a value for the descriptor of that
part and putting it in the place of the part.

`Value.put` is the point update: it replaces the part at a path and keeps
everything else.  `generateAt_eq_put` reduces `generateAt` to `generate` and
`put` along every path that the descriptor admits, so that what is known of
drawn values is known of redrawn parts.  The paths of leaves are such paths
(`descriptorAt_of_mem_leafPaths`).
-/

namespace Conformance

/-- A value with the part at a path replaced.  A path that leads to no part
changes nothing. -/
def Value.put : Value → Path → Value → Value
  | _, [], w => w
  | dict entries, .field n :: path, w =>
    match lookupText entries n with
    | some v => dict (insert (str n) (put v path w) entries)
    | none => dict entries
  | list items, .index (.ofNat i) :: path, w => list (items.modify i fun v => put v path w)
  | tuple items, .index (.ofNat i) :: path, w => tuple (items.modify i fun v => put v path w)
  | v, _ :: _, _ => v

namespace Descriptor

/-! ## Fields by name -/

theorem field?_cons (n m : String) (d : Descriptor) (fields : List (String × Descriptor)) :
    field? ((n, d) :: fields) m = if m = n then some d else field? fields m := by
  unfold field?
  rw [List.lookup_cons]
  by_cases h : m = n
  · simp [h]
  · have hne : (m == n) = false := beq_false_of_ne h
    simp [h, hne]

/-- A field that is found is declared. -/
theorem mem_of_field? : {fields : List (String × Descriptor)} → {n : String} → {d : Descriptor} →
    field? fields n = some d → (n, d) ∈ fields
  | [], _, _, h => by simp [field?] at h
  | (m, e) :: fields, n, d, h => by
      rw [field?_cons] at h
      split at h
      · next hn =>
        obtain rfl : e = d := Option.some.inj h
        rw [hn]
        exact List.mem_cons_self
      · exact List.mem_cons_of_mem _ (mem_of_field? h)

/-- Names that do not repeat lead to their own fields. -/
theorem field?_of_mem : {fields : List (String × Descriptor)} → (fields.map (·.1)).Nodup →
    {n : String} → {d : Descriptor} → (n, d) ∈ fields → field? fields n = some d
  | [], _, _, _, h => by simp at h
  | (m, e) :: fields, hnodup, n, d, h => by
      obtain ⟨hm, hfields⟩ := List.nodup_cons.mp hnodup
      rw [field?_cons]
      rcases List.mem_cons.mp h with heq | hmem
      · obtain ⟨rfl, rfl⟩ := Prod.mk.inj heq
        exact if_pos rfl
      · have hne : n ≠ m := fun he => hm (he ▸ List.mem_map_of_mem (f := (·.1)) hmem)
        rw [if_neg hne]
        exact field?_of_mem hfields hmem

/-- The descriptor of a declared field is well-formed. -/
theorem wellFormed_of_mem : {fields : List (String × Descriptor)} → FieldsWellFormed fields →
    {n : String} → {d : Descriptor} → (n, d) ∈ fields → d.WellFormed
  | [], _, _, _, h => by simp at h
  | (_, _) :: _, hfields, _, _, h => by
      obtain ⟨-, hd, hrest⟩ := hfields
      rcases List.mem_cons.mp h with heq | hmem
      · obtain ⟨rfl, rfl⟩ := Prod.mk.inj heq
        exact hd
      · exact wellFormed_of_mem hrest hmem

/-! ## Paths of leaves -/

/-- What stands under a segment is what stood there without it. -/
theorem mem_under {s : Segment} {leaves : List (Path × Descriptor)} {path : Path}
    {e : Descriptor} :
    (path, e) ∈ under s leaves ↔ ∃ below, path = s :: below ∧ (below, e) ∈ leaves := by
  unfold under
  rw [List.mem_map]
  constructor
  · rintro ⟨⟨below, f⟩, hmem, heq⟩
    obtain ⟨rfl, rfl⟩ := Prod.mk.inj heq
    exact ⟨below, rfl, hmem⟩
  · rintro ⟨below, rfl, hmem⟩
    exact ⟨(below, e), hmem, rfl⟩

/-- A path is followed segment by segment. -/
theorem descriptorAt_cons {d e : Descriptor} {s : Segment} (h : stepInto d s = .ok e)
    (path : Path) : descriptorAt d (s :: path) = descriptorAt e path := by
  rw [descriptorAt, h]

/-- A field is entered by its name. -/
theorem stepInto_field {n : Option String} {fields : List (String × Descriptor)} {name : String}
    {e : Descriptor} (h : field? fields name = some e) :
    stepInto (struct n fields) (.field name) = .ok e := by
  rw [stepInto, h]

/-- An item is entered by its index, up to the length. -/
theorem stepInto_item {n : Option String} {length i : Nat} {element : Descriptor}
    (h : i < length) : stepInto (vector n length element) (.index i) = .ok element := by
  have hrange : (0 : Int) ≤ i ∧ (i : Int) < length := by omega
  exact if_pos hrange

mutual
/-- The path of a leaf leads to the leaf. -/
theorem descriptorAt_of_mem_leafPaths : (d : Descriptor) → d.WellFormed → (path : Path) →
    (e : Descriptor) → (path, e) ∈ d.leafPaths →
    d.descriptorAt path = .ok e ∧ path.all Segment.isPlain
  | boolean _, _, path, e, h | string _, _, path, e, h | number _, _, path, e, h
  | integer .., _, path, e, h | enum .., _, path, e, h | maybe .., _, path, e, h
  | fn .., _, path, e, h => by
      obtain ⟨rfl, rfl⟩ : path = [] ∧ e = _ := by simpa [leafPaths] using h
      exact ⟨rfl, rfl⟩
  | struct n fields, hd, path, e, h => by
      obtain ⟨-, hnodup, hfields⟩ := hd
      rw [leafPaths] at h
      obtain ⟨m, d, below, rfl, hmem, hbelow, hplain⟩ :=
        descriptorAt_of_mem_fieldLeafPaths fields hfields path e h
      rw [descriptorAt_cons (stepInto_field (field?_of_mem hnodup hmem))]
      exact ⟨hbelow, by simpa [Segment.isPlain] using hplain⟩
  | pair n first second, hd, path, e, h => by
      obtain ⟨-, hfirst, hsecond⟩ := hd
      rw [leafPaths, List.mem_append] at h
      rcases h with h | h
      · obtain ⟨below, rfl, hmem⟩ := mem_under.mp h
        obtain ⟨hbelow, hplain⟩ := descriptorAt_of_mem_leafPaths first hfirst below e hmem
        have hstep : stepInto (pair n first second) (.index 0) = .ok first := rfl
        rw [descriptorAt_cons hstep]
        exact ⟨hbelow, by simpa [Segment.isPlain] using hplain⟩
      · obtain ⟨below, rfl, hmem⟩ := mem_under.mp h
        obtain ⟨hbelow, hplain⟩ := descriptorAt_of_mem_leafPaths second hsecond below e hmem
        have hstep : stepInto (pair n first second) (.index 1) = .ok second := rfl
        rw [descriptorAt_cons hstep]
        exact ⟨hbelow, by simpa [Segment.isPlain] using hplain⟩
  | vector n length element, hd, path, e, h => by
      obtain ⟨-, -, helement⟩ := hd
      simp only [leafPaths, List.mem_flatMap, List.mem_range] at h
      obtain ⟨i, hi, h⟩ := h
      obtain ⟨below, rfl, hmem⟩ := mem_under.mp h
      obtain ⟨hbelow, hplain⟩ := descriptorAt_of_mem_leafPaths element helement below e hmem
      rw [descriptorAt_cons (stepInto_item hi)]
      exact ⟨hbelow, by simpa [Segment.isPlain] using hplain⟩

/-- A leaf of fields is found at its path, below one of them. -/
theorem descriptorAt_of_mem_fieldLeafPaths : (fields : List (String × Descriptor)) →
    FieldsWellFormed fields → (path : Path) → (e : Descriptor) →
    (path, e) ∈ fieldLeafPaths fields →
    ∃ n d below, path = .field n :: below ∧ (n, d) ∈ fields ∧
      d.descriptorAt below = .ok e ∧ below.all Segment.isPlain
  | [], _, _, _, h => by simp [fieldLeafPaths] at h
  | (n, d) :: fields, hfields, path, e, h => by
      obtain ⟨-, hd, hrest⟩ := hfields
      rw [fieldLeafPaths, List.mem_append] at h
      rcases h with h | h
      · obtain ⟨below, rfl, hmem⟩ := mem_under.mp h
        exact ⟨n, d, below, rfl, List.mem_cons_self, descriptorAt_of_mem_leafPaths d hd below e hmem⟩
      · obtain ⟨m, f, below, hpath, hmem, hleaf⟩ :=
          descriptorAt_of_mem_fieldLeafPaths fields hrest path e h
        exact ⟨m, f, below, hpath, List.mem_cons_of_mem _ hmem, hleaf⟩
end

/-! ## Redrawing -/

section

variable {s : Sampling} {good : Float → Prop}

@[simp] theorem demand_ok {α : Type} (a : α) : demand (.ok a) = (pure a : Draw α) := rfl

/-- A pair is entered at 0 or at 1. -/
theorem stepInto_pair {n : Option String} {first second e : Descriptor} {segment : Segment}
    (hplain : segment.isPlain) (h : stepInto (pair n first second) segment = .ok e) :
    segment = .index 0 ∧ e = first ∨ segment = .index 1 ∧ e = second := by
  cases segment with
  | field m => simp [stepInto, Segment.component?, Segment.toValue, Value.same] at h
  | other v => simp [Segment.isPlain] at hplain
  | index i =>
    have hsame : ∀ k : Int, (Value.int i).same (.int k) = decide (i = k) := by
      intro k
      by_cases hk : i = k
      · simp [hk, Value.same, Value.sameNumber, Value.numeric?, Value.Numeric.order]
      · have hne : compare i k ≠ .eq := fun hc => hk (Int.compare_eq_eq.mp hc)
        simp [hk, hne, Value.same, Value.sameNumber, Value.numeric?, Value.Numeric.order]
    simp only [stepInto, Segment.component?, Segment.toValue, hsame] at h
    by_cases h0 : i = 0
    · simp [h0] at h
      exact .inl ⟨by rw [h0], h.symm⟩
    · by_cases h1 : i = 1
      · simp [h1] at h
        exact .inr ⟨by rw [h1], h.symm⟩
      · simp [h0, h1] at h

/-- A vector is entered at an index below its length. -/
theorem stepInto_vector {n : Option String} {length : Nat} {element e : Descriptor}
    {segment : Segment} (hplain : segment.isPlain)
    (h : stepInto (vector n length element) segment = .ok e) :
    ∃ i : Nat, i < length ∧ segment = .index i ∧ e = element := by
  cases segment with
  | field m => simp [stepInto, Segment.integer?, Segment.toValue, Value.integer?] at h
  | other v => simp [Segment.isPlain] at hplain
  | index i =>
    by_cases hi : 0 ≤ i ∧ i < length
    · have hinside : stepInto (vector n length element) (.index i) = .ok element := if_pos hi
      rw [hinside] at h
      obtain ⟨k, rfl⟩ := Int.eq_ofNat_of_zero_le hi.1
      exact ⟨k, by omega, rfl, (Except.ok.inj h).symm⟩
    · have hrefused : stepInto (vector n length element) (.index i) = .error (.lookup _) :=
        if_neg hi
      rw [hrefused] at h
      cases h

/-- A struct is entered by the name of a field. -/
theorem stepInto_struct {n : Option String} {fields : List (String × Descriptor)} {e : Descriptor}
    {segment : Segment} (h : stepInto (struct n fields) segment = .ok e) :
    ∃ m, segment = .field m ∧ field? fields m = some e := by
  cases segment with
  | index i => simp [stepInto] at h
  | other v => simp [stepInto] at h
  | field m =>
    simp only [stepInto] at h
    split at h
    · next d hd =>
      obtain rfl := Except.ok.inj h
      exact ⟨m, rfl, hd⟩
    · simp at h

/-- One step of a redraw: the part `w` is redrawn and `rebuild` puts it back.
The part is what following the segment leads to. -/
structure Redrawn (s : Sampling) (segment : Segment) (d e : Descriptor) (v w : Value)
    (rebuild : Value → Value) : Prop where
  redraw : ∀ path, generateAt s (segment :: path) d v =
    (generateAt s path e w >>= fun u => pure (rebuild u))
  put : ∀ path u, v.put (segment :: path) u = rebuild (w.put path u)
  follow : ∀ path, v.follow (segment :: path) = w.follow path

/-- Below a segment there is a canonical value, which the redraw puts back. -/
theorem exists_redrawn {d e : Descriptor} {segment : Segment} {v : Value} (hd : d.WellFormed)
    (hplain : segment.isPlain) (h : stepInto d segment = .ok e) (hv : d.Canonical s good v) :
    ∃ w rebuild, e.WellFormed ∧ e.Canonical s good w ∧ Redrawn s segment d e v w rebuild := by
  cases d with
  | boolean | string | number | integer | enum | maybe | fn => simp [stepInto] at h
  | struct n fields =>
    obtain ⟨entries, rfl, hentries⟩ := hv
    obtain ⟨-, hnodup, hfields⟩ := hd
    obtain ⟨m, rfl, hm⟩ := stepInto_struct h
    have hmem := mem_of_field? hm
    obtain ⟨w, hlookup, hw⟩ := lookupText_of_canonicalEntries hentries hnodup m e hmem
    refine ⟨w, fun u => .dict (Value.insert (.str m) u entries), wellFormed_of_mem hfields hmem, hw,
      ⟨fun path => ?_, fun path u => ?_, fun path => ?_⟩⟩
    · simp only [generateAt, fieldAt, hm, hlookup, demand_ok, pure_bind]
    · simp only [Value.put, hlookup]
    · simp only [Value.follow, Value.bare, Value.step, hlookup, Option.getD_some]
  | pair n first second =>
    obtain ⟨a, b, rfl, ha, hb⟩ := hv
    obtain ⟨-, hfirst, hsecond⟩ := hd
    rcases stepInto_pair hplain h with ⟨rfl, rfl⟩ | ⟨rfl, rfl⟩
    · exact ⟨a, fun u => .tuple [u, b], hfirst, ha, fun _ => rfl, fun _ _ => rfl, fun _ => rfl⟩
    · exact ⟨b, fun u => .tuple [a, u], hsecond, hb, fun _ => rfl, fun _ _ => rfl, fun _ => rfl⟩
  | vector n length element =>
    obtain ⟨items, rfl, hlength, hitems⟩ := hv
    obtain ⟨-, -, helement⟩ := hd
    obtain ⟨i, hi, rfl, rfl⟩ := stepInto_vector hplain h
    have hitem : items[i]? = some items[i] := List.getElem?_eq_getElem (by omega)
    have hnonneg : ¬ (i : Int) < 0 := by omega
    have hitemAt : itemAt (.list items) (some (i : Int)) = .ok (items, i, items[i]) := by
      simp [itemAt, Value.items?, hitem, hnonneg]
    refine ⟨items[i], fun u => .list (items.set i u), helement, hitems _ (List.getElem_mem _),
      ⟨fun path => ?_, fun path u => ?_, fun path => ?_⟩⟩
    · simp only [generateAt, Segment.integer?, Segment.toValue, Value.integer?, hitemAt, demand_ok,
        pure_bind]
    · show Value.list (items.modify i fun v => v.put path u) = _
      rw [List.modify_eq_set, hitem]
      rfl
    · have hstep : Value.step (.list items) (.index i) = items[i] := by
        simp [Value.step, Segment.integer?, Segment.toValue, Value.integer?, Value.item?, hitem]
      show ((Value.list items).step (.index i)).follow path = _
      rw [hstep]

/-- Redrawing the part at a path is drawing a value for the descriptor of the
part and putting it there. -/
theorem generateAt_eq_put (path : Path) {d e : Descriptor} {v : Value} (hd : d.WellFormed)
    (hplain : path.all Segment.isPlain) (h : d.descriptorAt path = .ok e)
    (hv : d.Canonical s good v) :
    generateAt s path d v = (generate s e >>= fun w => pure (v.put path w)) := by
  induction path generalizing d v with
  | nil =>
    obtain rfl : d = e := Except.ok.inj h
    simp only [generateAt, Value.put, bind_pure]
  | cons segment path ih =>
    rw [List.all_cons, Bool.and_eq_true] at hplain
    rw [descriptorAt] at h
    split at h
    · next f hf =>
      obtain ⟨w, rebuild, hwf, hw, hstep⟩ := exists_redrawn hd hplain.1 hf hv
      rw [hstep.redraw path, ih hwf hplain.2 h hw, bind_assoc]
      simp only [pure_bind, hstep.put]
    · simp at h

/-- What stands at a path in a canonical value is canonical for what stands
there in the descriptor. -/
theorem canonical_follow (path : Path) {d e : Descriptor} {v : Value} (hd : d.WellFormed)
    (hplain : path.all Segment.isPlain) (h : d.descriptorAt path = .ok e)
    (hv : d.Canonical s good v) : e.WellFormed ∧ e.Canonical s good (v.follow path) := by
  induction path generalizing d v with
  | nil =>
    obtain rfl : d = e := Except.ok.inj h
    exact ⟨hd, hv⟩
  | cons segment path ih =>
    rw [List.all_cons, Bool.and_eq_true] at hplain
    rw [descriptorAt] at h
    split at h
    · next f hf =>
      obtain ⟨w, rebuild, hwf, hw, hstep⟩ := exists_redrawn hd hplain.1 hf hv
      rw [hstep.follow path]
      exact ih hwf hplain.2 h hw
    · cases h

/-- What is drawn is never missing. -/
theorem Canonical.ne_missing {d : Descriptor} {v : Value} (h : d.Canonical s good v) :
    v ≠ .missing := by
  rintro rfl
  cases d <;> simp [Canonical] at h

end

/-! ## Parts without functions -/

/-- A function in one field is a function in the fields. -/
theorem hasFunction_of_mem : {fields : List (String × Descriptor)} → {n : String} →
    {d : Descriptor} → (n, d) ∈ fields → d.HasFunction → FieldsHaveFunction fields
  | [], _, _, h, _ => by simp at h
  | (_, _) :: _, _, _, h, hd => by
      rcases List.mem_cons.mp h with heq | hmem
      · obtain ⟨rfl, rfl⟩ := Prod.mk.inj heq
        exact .inl hd
      · exact .inr (hasFunction_of_mem hmem hd)

/-- A function in a part is a function in the whole. -/
theorem hasFunction_of_stepInto {d e : Descriptor} {segment : Segment}
    (hplain : segment.isPlain) (h : stepInto d segment = .ok e) (he : e.HasFunction) :
    d.HasFunction := by
  cases d with
  | boolean | string | number | integer | enum | maybe | fn => simp [stepInto] at h
  | struct n fields =>
    obtain ⟨m, -, hm⟩ := stepInto_struct h
    exact hasFunction_of_mem (mem_of_field? hm) he
  | pair n first second =>
    rcases stepInto_pair hplain h with ⟨-, rfl⟩ | ⟨-, rfl⟩
    · exact .inl he
    · exact .inr he
  | vector n length element =>
    obtain ⟨i, -, -, rfl⟩ := stepInto_vector hplain h
    exact he

/-- What a part holds, the whole holds. -/
theorem hasFunction_of_descriptorAt (path : Path) {d e : Descriptor}
    (hplain : path.all Segment.isPlain) (h : d.descriptorAt path = .ok e) (he : e.HasFunction) :
    d.HasFunction := by
  induction path generalizing d with
  | nil =>
    obtain rfl : d = e := Except.ok.inj h
    exact he
  | cons segment path ih =>
    rw [List.all_cons, Bool.and_eq_true] at hplain
    rw [descriptorAt] at h
    split at h
    · next f hf => exact hasFunction_of_stepInto hplain.1 hf (ih hplain.2 h)
    · simp at h

end Descriptor

end Conformance
