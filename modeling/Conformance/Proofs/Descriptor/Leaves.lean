import Conformance.Proofs.Generate.PointUpdate

/-!
# Conformance.Proofs.Descriptor.Leaves

The leaves of a descriptor, against the walk along a path.

`leafPaths` goes through the descriptor; `descriptorAt` goes along a path.
Both open a container in the same steps (`mem_leafPaths_cons`), so that the
leaves are the paths on which the walk ends where nothing can be opened
(`mem_leafPaths_iff`).

They are listed in the order of declaration, `Before`: two paths part at one
container, and the one that takes the earlier field or the smaller index
there comes first (`ordered_leafPaths`).  As paths that part do not begin
alike, no leaf is listed twice and none stands inside another.
-/

namespace Conformance.Descriptor

/-- A leaf is a position that is not opened: a primitive, an enum, a maybe or
a function. -/
def isLeaf : Descriptor → Bool
  | struct .. | pair .. | vector .. => false
  | _ => true

/-! ## The order of declaration -/

/-- The place of a segment among those that a container is opened at. -/
def position : Descriptor → Segment → Int
  | struct _ fields, .field n => (fields.map (·.1)).idxOf n
  | _, .index i => i
  | _, _ => 0

/-- A path comes before another: it takes the earlier segment where the two part. -/
inductive Before : Descriptor → Path → Path → Prop
  | here {d : Descriptor} {s t : Segment} {path other : Path}
      (h : d.position s < d.position t) : Before d (s :: path) (t :: other)
  | inside {d e : Descriptor} {s : Segment} {path other : Path}
      (hstep : d.stepInto s = .ok e) (h : Before e path other) : Before d (s :: path) (s :: other)

/-- A path and one that comes after it part before either ends. -/
theorem Before.not_isPrefix {d : Descriptor} {path other : Path} (h : Before d path other) :
    ¬ path <+: other ∧ ¬ other <+: path := by
  induction h with
  | @here d s t path other h =>
    have hne : s ≠ t := by
      rintro rfl
      exact Int.lt_irrefl _ h
    simp [List.cons_prefix_cons, hne, hne.symm]
  | inside _ _ ih => simpa [List.cons_prefix_cons] using ih

/-- A path does not come before itself. -/
theorem Before.ne {d : Descriptor} {path other : Path} (h : Before d path other) :
    path ≠ other := by
  rintro rfl
  exact h.not_isPrefix.1 List.prefix_rfl

/-! ## What is listed -/

/-- The leaves of fields are those of each field, one field after the other. -/
theorem fieldLeafPaths_eq_flatMap (fields : List (String × Descriptor)) :
    fieldLeafPaths fields = fields.flatMap fun f => under (.field f.1) f.2.leafPaths := by
  induction fields with
  | nil => rw [fieldLeafPaths, List.flatMap_nil]
  | cons f fields ih =>
    obtain ⟨n, d⟩ := f
    rw [fieldLeafPaths, ih, List.flatMap_cons]

/-- Nothing under a segment stands at the whole. -/
theorem ne_nil_of_mem_under {s : Segment} {leaves : List (Path × Descriptor)} {path : Path}
    {e : Descriptor} (h : (path, e) ∈ under s leaves) : path ≠ [] := by
  obtain ⟨below, rfl, -⟩ := mem_under.mp h
  exact List.cons_ne_nil _ _

/-- The whole is a leaf exactly if it is no container. -/
theorem mem_leafPaths_nil {d e : Descriptor} : ([], e) ∈ d.leafPaths ↔ d = e ∧ d.isLeaf := by
  cases d with
  | boolean | string | number | integer | enum | maybe | fn =>
    simp [leafPaths, isLeaf, eq_comm]
  | struct n fields =>
    simp only [leafPaths, isLeaf, fieldLeafPaths_eq_flatMap, List.mem_flatMap, Bool.false_eq_true,
      and_false, iff_false]
    rintro ⟨f, -, h⟩
    exact ne_nil_of_mem_under h rfl
  | pair n first second =>
    simp only [leafPaths, isLeaf, List.mem_append, Bool.false_eq_true, and_false, iff_false]
    rintro (h | h) <;> exact ne_nil_of_mem_under h rfl
  | vector n length element =>
    simp only [leafPaths, isLeaf, List.mem_flatMap, Bool.false_eq_true, and_false, iff_false]
    rintro ⟨i, -, h⟩
    exact ne_nil_of_mem_under h rfl

/-- What stands under a segment begins with it. -/
theorem cons_mem_under {s t : Segment} {leaves : List (Path × Descriptor)} {path : Path}
    {e : Descriptor} : (t :: path, e) ∈ under s leaves ↔ t = s ∧ (path, e) ∈ leaves := by
  rw [mem_under]
  constructor
  · rintro ⟨below, heq, hmem⟩
    obtain ⟨rfl, rfl⟩ := List.cons.inj heq
    exact ⟨rfl, hmem⟩
  · rintro ⟨rfl, hmem⟩
    exact ⟨path, rfl, hmem⟩

/-- A leaf below a segment is a leaf of what the container is opened to there. -/
theorem mem_leafPaths_cons {d e : Descriptor} {s : Segment} {path : Path} (hd : d.WellFormed) :
    (s :: path, e) ∈ d.leafPaths ↔
      s.isPlain ∧ ∃ f, d.stepInto s = .ok f ∧ (path, e) ∈ f.leafPaths := by
  cases d with
  | boolean | string | number | integer | enum | maybe | fn => simp [leafPaths, stepInto]
  | struct n fields =>
    obtain ⟨-, hnodup, -⟩ := hd
    simp only [leafPaths, fieldLeafPaths_eq_flatMap, List.mem_flatMap, cons_mem_under]
    constructor
    · rintro ⟨⟨name, f⟩, hmem, rfl, hleaf⟩
      exact ⟨rfl, f, stepInto_field (field?_of_mem hnodup hmem), hleaf⟩
    · rintro ⟨-, f, hstep, hleaf⟩
      obtain ⟨name, rfl, hf⟩ := stepInto_struct hstep
      exact ⟨(name, f), mem_of_field? hf, rfl, hleaf⟩
  | pair n first second =>
    simp only [leafPaths, List.mem_append, cons_mem_under]
    constructor
    · rintro (⟨rfl, hleaf⟩ | ⟨rfl, hleaf⟩)
      · exact ⟨rfl, first, rfl, hleaf⟩
      · exact ⟨rfl, second, rfl, hleaf⟩
    · rintro ⟨hplain, f, hstep, hleaf⟩
      rcases stepInto_pair hplain hstep with ⟨rfl, rfl⟩ | ⟨rfl, rfl⟩
      · exact .inl ⟨rfl, hleaf⟩
      · exact .inr ⟨rfl, hleaf⟩
  | vector n length element =>
    simp only [leafPaths, List.mem_flatMap, List.mem_range, cons_mem_under]
    constructor
    · rintro ⟨i, hi, rfl, hleaf⟩
      exact ⟨rfl, element, stepInto_item hi, hleaf⟩
    · rintro ⟨hplain, f, hstep, hleaf⟩
      obtain ⟨i, hi, rfl, rfl⟩ := stepInto_vector hplain hstep
      exact ⟨i, hi, rfl, hleaf⟩

/-- The parts of a well-formed descriptor are well-formed. -/
theorem wellFormed_of_stepInto {d e : Descriptor} {s : Segment} (hd : d.WellFormed)
    (hplain : s.isPlain) (h : d.stepInto s = .ok e) : e.WellFormed := by
  cases d with
  | boolean | string | number | integer | enum | maybe | fn => simp [stepInto] at h
  | struct n fields =>
    obtain ⟨name, -, he⟩ := stepInto_struct h
    exact wellFormed_of_mem hd.2.2 (mem_of_field? he)
  | pair n first second =>
    rcases stepInto_pair hplain h with ⟨-, rfl⟩ | ⟨-, rfl⟩
    · exact hd.2.1
    · exact hd.2.2
  | vector n length element =>
    obtain ⟨i, -, -, rfl⟩ := stepInto_vector hplain h
    exact hd.2.2

/-- The leaves are the positions that a path of names and indices ends at. -/
theorem mem_leafPaths_iff {d e : Descriptor} {path : Path} (hd : d.WellFormed) :
    (path, e) ∈ d.leafPaths ↔ path.all Segment.isPlain ∧ d.descriptorAt path = .ok e ∧ e.isLeaf := by
  induction path generalizing d with
  | nil =>
    rw [mem_leafPaths_nil]
    constructor
    · rintro ⟨rfl, hleaf⟩
      exact ⟨rfl, rfl, hleaf⟩
    · rintro ⟨-, hat, hleaf⟩
      obtain rfl := Except.ok.inj hat
      exact ⟨rfl, hleaf⟩
  | cons s path ih =>
    rw [mem_leafPaths_cons hd, List.all_cons, Bool.and_eq_true]
    constructor
    · rintro ⟨hs, f, hstep, hmem⟩
      obtain ⟨hpath, hat, hleaf⟩ := (ih (wellFormed_of_stepInto hd hs hstep)).mp hmem
      exact ⟨⟨hs, hpath⟩, (descriptorAt_cons hstep path).trans hat, hleaf⟩
    · rintro ⟨⟨hs, hpath⟩, hat, hleaf⟩
      rw [descriptorAt] at hat
      split at hat
      · next f hstep =>
        exact ⟨hs, f, hstep, (ih (wellFormed_of_stepInto hd hs hstep)).mpr ⟨hpath, hat, hleaf⟩⟩
      · cases hat

/-! ## In which order -/

/-- Leaves in the order of declaration. -/
def Ordered (d : Descriptor) (leaves : List (Path × Descriptor)) : Prop :=
  leaves.Pairwise fun a b => d.Before a.1 b.1

/-- Leaves in order stay so under a segment. -/
theorem Ordered.under {d e : Descriptor} {s : Segment} {leaves : List (Path × Descriptor)}
    (h : e.Ordered leaves) (hstep : d.stepInto s = .ok e) : d.Ordered (under s leaves) :=
  List.pairwise_map.mpr (h.imp fun hbefore => .inside hstep hbefore)

/-- The leaves under one segment come before those under a later one. -/
theorem before_of_mem_under {d : Descriptor} {s t : Segment} {here there : List (Path × Descriptor)}
    (h : d.position s < d.position t) : ∀ a ∈ under s here, ∀ b ∈ under t there,
      d.Before a.1 b.1 := by
  rintro ⟨path, e⟩ ha ⟨other, f⟩ hb
  obtain ⟨below, rfl, -⟩ := mem_under.mp ha
  obtain ⟨below', rfl, -⟩ := mem_under.mp hb
  exact .here h

/-- Fields stand in the order of their positions. -/
theorem pairwise_position {n : Option String} {fields : List (String × Descriptor)}
    (hnodup : (fields.map (·.1)).Nodup) : fields.Pairwise fun f g =>
      (struct n fields).position (.field f.1) < (struct n fields).position (.field g.1) := by
  have hplace : ∀ (i : Nat) (hi : i < fields.length),
      (struct n fields).position (.field fields[i].1) = i := by
    intro i hi
    have hnames : i < (fields.map (·.1)).length := by simpa using hi
    have hname : fields[i].1 = (fields.map (·.1))[i] := by simp
    rw [position, hname, hnodup.idxOf_getElem]
  rw [List.pairwise_iff_getElem]
  intro i j hi hj hij
  rw [hplace i hi, hplace j hj]
  exact_mod_cast hij

mutual
/-- Leaves are listed in the order of declaration. -/
theorem ordered_leafPaths : (d : Descriptor) → d.WellFormed → d.Ordered d.leafPaths
  | boolean _, _ | string _, _ | number _, _ | integer .., _ | enum .., _ | maybe .., _
  | fn .., _ => by
      simp only [leafPaths]
      exact List.pairwise_singleton _ _
  | struct n fields, hd => by
      obtain ⟨-, hnodup, hfields⟩ := hd
      rw [leafPaths, fieldLeafPaths_eq_flatMap]
      refine List.pairwise_flatMap.mpr ⟨fun f hf => ?_, ?_⟩
      · exact (ordered_leafPaths_of_mem fields hfields f hf).under
          (stepInto_field (field?_of_mem hnodup hf))
      · exact (pairwise_position hnodup).imp before_of_mem_under
  | pair n first second, hd => by
      obtain ⟨-, hfirst, hsecond⟩ := hd
      rw [leafPaths]
      refine List.pairwise_append.mpr ⟨?_, ?_, before_of_mem_under Int.zero_lt_one⟩
      · exact (ordered_leafPaths first hfirst).under rfl
      · exact (ordered_leafPaths second hsecond).under rfl
  | vector n length element, hd => by
      obtain ⟨-, -, helement⟩ := hd
      rw [leafPaths]
      refine List.pairwise_flatMap.mpr ⟨fun i hi => ?_, ?_⟩
      · exact (ordered_leafPaths element helement).under (stepInto_item (List.mem_range.mp hi))
      · exact List.pairwise_lt_range.imp fun h => before_of_mem_under (Int.ofNat_lt.mpr h)

/-- The leaves of each field are in order. -/
theorem ordered_leafPaths_of_mem : (fields : List (String × Descriptor)) →
    FieldsWellFormed fields → ∀ f ∈ fields, f.2.Ordered f.2.leafPaths
  | [], _ => by simp
  | (n, d) :: fields, hfields => by
      obtain ⟨-, hd, hrest⟩ := hfields
      intro f hf
      rcases List.mem_cons.mp hf with rfl | hf
      · exact ordered_leafPaths d hd
      · exact ordered_leafPaths_of_mem fields hrest f hf
end

/-- The leaves of a descriptor are enumerated.

1. A path is listed with what stands there exactly if its segments are names
   and integers and the walk along it ends at a leaf;
2. no path is listed twice;
3. no listed path is the beginning of another;
4. a path is listed before those that come after it in the order of
   declaration. -/
theorem leafPaths_enumerates {d : Descriptor} (hd : d.WellFormed) :
    (∀ path e, (path, e) ∈ d.leafPaths ↔
      path.all Segment.isPlain ∧ d.descriptorAt path = .ok e ∧ e.isLeaf) ∧
    (d.leafPaths.map (·.1)).Nodup ∧
    (∀ leaf ∈ d.leafPaths, ∀ other ∈ d.leafPaths, leaf.1 <+: other.1 → leaf = other) ∧
    d.Ordered d.leafPaths := by
  have hordered := ordered_leafPaths d hd
  refine ⟨fun path e => mem_leafPaths_iff hd, ?_, ?_, hordered⟩
  · exact List.pairwise_map.mpr (hordered.imp Before.ne)
  · intro leaf hleaf other hother
    -- of two entries one comes first, whichever of the two is asked about
    refine List.Pairwise.forall_of_forall_of_flip (R := fun a b : Path × Descriptor =>
      a.1 <+: b.1 → a = b) (fun _ _ _ => rfl) ?_ ?_ hleaf hother
    · exact hordered.imp fun h hprefix => absurd hprefix h.not_isPrefix.1
    · exact hordered.imp fun h hprefix => absurd hprefix h.not_isPrefix.2

/-- A league: a venue of which nothing is told, and twice the same table. -/
def league : Descriptor :=
  let table := vector none 2 (pair none (string none) (maybe none (boolean none)))
  struct none [("venue", struct none []), ("home", table), ("away", table)]

/-- A league: a struct without fields is no leaf, and no leaf is listed twice. -/
theorem leafPaths_enumerates_league :
    league.WellFormed ∧
      ([.field "away", .index 1, .index 0], string none) ∈ league.leafPaths ∧
      ([.field "venue"], struct none []) ∉ league.leafPaths ∧
      (league.leafPaths.map (·.1)).Nodup ∧ league.Ordered league.leafPaths := by
  have hd : league.WellFormed := by
    simp [league, WellFormed, FieldsWellFormed, NameWellFormed]
  obtain ⟨hmem, hnodup, -, hordered⟩ := leafPaths_enumerates hd
  refine ⟨hd, (hmem _ _).mpr ⟨rfl, rfl, rfl⟩, fun h => ?_, hnodup, hordered⟩
  obtain ⟨-, -, hleaf⟩ := (hmem _ _).mp h
  cases hleaf

end Conformance.Descriptor
