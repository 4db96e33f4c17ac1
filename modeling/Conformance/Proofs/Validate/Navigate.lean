import Conformance.Proofs.Descriptor.Leaves
import Conformance.Proofs.Validate.Diagnosis
import Mathlib.Tactic.ByContra

/-!
# Conformance.Proofs.Validate.Navigate

One path, followed in a value and in its descriptor.

`Value.HasAt` says that a path leads to a part that is there: every name on
it is a key and every index that of an item.  So `Value.follow` comes to that
part and never to the mark of what is absent (`HasAt.follow_eq`).

1. What a conforming value holds at a path conforms to what stands there in
   the descriptor (`exists_hasAt_of_descriptorAt`): each step that opens the
   descriptor opens the value (`exists_part`).
2. A value that does not conform although all of its containers are as they
   should be (`Descriptor.Framed`) has a leaf that does not
   (`exists_leaf_of_framed`).
-/

namespace Conformance

/-! ## Parts of a value -/

/-- A path leads to a part of a value.  The `just` layers around a value are
passed through before a step. -/
inductive Value.HasAt : Value → Path → Value → Prop
  | here (v : Value) : HasAt v [] v
  | just {v s path w} (h : HasAt v (s :: path) w) : HasAt (.just v) (s :: path) w
  | entry {entries name v path w} (hv : Value.lookupText entries name = some v)
    (h : HasAt v path w) : HasAt (.dict entries) (.field name :: path) w
  | item {v items u path w} {i : Nat} (hv : v.IsSequence items) (hu : items[i]? = some u)
    (h : HasAt u path w) : HasAt v (.index i :: path) w

/-- Following a path comes to the part that it leads to. -/
theorem Value.HasAt.follow_eq {v w : Value} {path : Path} (h : v.HasAt path w) :
    v.follow path = w := by
  induction h with
  | here v => exact follow_nil v
  | @just v s path w h ih => rw [follow_just, ih]
  | @entry entries name v path w hv h ih => rw [follow_dict, hv, Option.getD_some, ih]
  | @item v items u path w i hv hu h ih => rw [follow_of_isSequence hv hu, ih]

namespace Descriptor

/-! ## Down a path of the descriptor -/

/-- Where a descriptor is opened, a conforming value has a part that conforms
to what it is opened to. -/
theorem exists_part {d e : Descriptor} {s : Segment} {v : Value} (hplain : s.isPlain)
    (h : d.stepInto s = .ok e) (hv : d.Admits v) :
    ∃ w, e.Admits w ∧ ∀ path u, w.HasAt path u → v.HasAt (s :: path) u := by
  cases hv with
  | boolean | string | whole | finite | integer | label | nothing | just | function =>
    simp [stepInto] at h
  | @struct n fields entries hkeys hentries =>
    obtain ⟨name, rfl, he⟩ := stepInto_struct h
    have hmem := mem_of_field? he
    obtain ⟨w, hw⟩ := Value.exists_lookupText.mpr ((hkeys (.str name)).mpr ⟨_, hmem, rfl⟩)
    exact ⟨w, hentries _ hmem w hw, fun path u hu => .entry hw hu⟩
  | @pair n first second v a b hv ha hb =>
    rcases stepInto_pair hplain h with ⟨rfl, rfl⟩ | ⟨rfl, rfl⟩
    · exact ⟨a, ha, fun path u hu => .item (i := 0) hv rfl hu⟩
    · exact ⟨b, hb, fun path u hu => .item (i := 1) hv rfl hu⟩
  | @vector n length element v items hv hlength hitems =>
    obtain ⟨i, hi, rfl, rfl⟩ := stepInto_vector hplain h
    have hitem : items[i]? = some items[i] := List.getElem?_eq_getElem (by omega)
    exact ⟨items[i], hitems _ (List.getElem_mem _), fun path u hu => .item hv hitem hu⟩

/-- What a conforming value holds at a path conforms to what stands there in
the descriptor. -/
theorem exists_hasAt_of_descriptorAt (path : Path) {d e : Descriptor} {v : Value}
    (hplain : path.all Segment.isPlain) (h : d.descriptorAt path = .ok e) (hv : d.Admits v) :
    ∃ w, v.HasAt path w ∧ e.Admits w := by
  induction path generalizing d v with
  | nil =>
    obtain rfl : d = e := Except.ok.inj h
    exact ⟨v, .here v, hv⟩
  | cons s path ih =>
    rw [List.all_cons, Bool.and_eq_true] at hplain
    rw [descriptorAt] at h
    split at h
    · next f hf =>
      obtain ⟨part, hpart, hbelow⟩ := exists_part hplain.1 hf hv
      obtain ⟨w, hw, hadmits⟩ := ih hplain.2 h hpart
      exact ⟨w, hbelow path w hw, hadmits⟩
    · cases h

/-! ## Up from the leaves -/

/-- Every container of a value that stands where a struct, a pair or a vector
should is one of the right kind, with exactly the declared keys or as many
items as it should have.  Of the leaves nothing is said. -/
inductive Framed : Descriptor → Value → Prop
  | leaf {d : Descriptor} (h : d.isLeaf) (v : Value) : Framed d v
  | struct {n fields entries}
    (hkeys : ∀ key, key ∈ entries.map (·.1) ↔ ∃ f ∈ fields, key = .str f.1)
    (hentries : ∀ f ∈ fields, ∀ w, Value.lookupText entries f.1 = some w → Framed f.2 w) :
    Framed (struct n fields) (.dict entries)
  | pair {n first second v a b} (hv : v.IsSequence [a, b]) (ha : Framed first a)
    (hb : Framed second b) : Framed (pair n first second) v
  | vector {n length element v items} (hv : v.IsSequence items) (hlength : items.length = length)
    (hitems : ∀ w ∈ items, Framed element w) : Framed (vector n length element) v

/-- A leaf of a descriptor at which a value holds what does not conform. -/
def HasWrongLeaf (d : Descriptor) (v : Value) : Prop :=
  ∃ path e w, (path, e) ∈ d.leafPaths ∧ v.HasAt path w ∧ ¬ e.Admits w

/-- A wrong leaf of a part is one of the whole. -/
theorem HasWrongLeaf.up {d e : Descriptor} {s : Segment} {v w : Value} (h : e.HasWrongLeaf w)
    (hleaves : ∀ leaf ∈ under s e.leafPaths, leaf ∈ d.leafPaths)
    (hat : ∀ path u, w.HasAt path u → v.HasAt (s :: path) u) : d.HasWrongLeaf v := by
  obtain ⟨path, leaf, u, hmem, hu, hwrong⟩ := h
  exact ⟨s :: path, leaf, u, hleaves _ (mem_under.mpr ⟨path, rfl, hmem⟩), hat path u hu, hwrong⟩

/-- If the containers are right, something that is wrong is a leaf. -/
theorem exists_leaf_of_framed {d : Descriptor} {v : Value} (h : d.Framed v) (hv : ¬ d.Admits v) :
    d.HasWrongLeaf v := by
  induction h with
  | @leaf d hleaf v => exact ⟨[], d, v, mem_leafPaths_nil.mpr ⟨rfl, hleaf⟩, .here v, hv⟩
  | @struct n fields entries hkeys hentries ih =>
    obtain ⟨f, hf, w, hw, hwrong⟩ :
        ∃ f ∈ fields, ∃ w, Value.lookupText entries f.1 = some w ∧ ¬ f.2.Admits w := by
      by_contra hnone
      push Not at hnone
      exact hv (.struct hkeys hnone)
    refine (ih f hf w hw hwrong).up (s := .field f.1) (fun leaf hleaf => ?_)
      fun path u hu => .entry hw hu
    rw [leafPaths, fieldLeafPaths_eq_flatMap]
    exact List.mem_flatMap.mpr ⟨f, hf, hleaf⟩
  | @pair n first second v a b hseq ha hb iha ihb =>
    by_cases hfirst : first.Admits a
    · have hsecond : ¬ second.Admits b := fun hsecond => hv (.pair hseq hfirst hsecond)
      refine (ihb hsecond).up (s := .index (1 : Nat)) (fun leaf hleaf => ?_)
        fun path u hu => .item hseq rfl hu
      rw [leafPaths]
      exact List.mem_append_right _ hleaf
    · refine (iha hfirst).up (s := .index (0 : Nat)) (fun leaf hleaf => ?_)
        fun path u hu => .item hseq rfl hu
      rw [leafPaths]
      exact List.mem_append_left _ hleaf
  | @vector n length element v items hseq hlength hitems ih =>
    obtain ⟨w, hw, hwrong⟩ : ∃ w ∈ items, ¬ element.Admits w := by
      by_contra hnone
      push Not at hnone
      exact hv (.vector hseq hlength hnone)
    obtain ⟨i, hi⟩ := List.getElem?_of_mem hw
    refine (ih w hw hwrong).up (s := .index i) (fun leaf hleaf => ?_)
      fun path u hu => .item hseq hi hu
    have hrange : i < length := by
      rw [← hlength]
      exact (List.getElem?_eq_some_iff.mp hi).1
    simp only [leafPaths, List.mem_flatMap, List.mem_range]
    exact ⟨i, hrange, hleaf⟩

/-- A path leads to the same place in a value and in its descriptor.

1. If the value conforms, then at every path of names and integers at which
   there is a descriptor the value holds a part, that is what following the
   path comes to, and it conforms to the descriptor there.
2. If the value does not conform although its containers are right, then one
   of the leaves does not: the value holds something there that is not what
   the leaf asks for. -/
theorem follow_conforms (d : Descriptor) (v : Value) :
    (d.validate v = none → ∀ path e, path.all Segment.isPlain → d.descriptorAt path = .ok e →
      ∃ w, v.HasAt path w ∧ v.follow path = w ∧ w ≠ .missing ∧ e.validate w = none) ∧
    (d.Framed v → d.validate v ≠ none → ∃ path leaf w, (path, leaf) ∈ d.leafPaths ∧
      v.HasAt path w ∧ v.follow path = w ∧ leaf.validate w ≠ none) := by
  constructor
  · intro hv path e hplain he
    obtain ⟨w, hw, hadmits⟩ := exists_hasAt_of_descriptorAt path hplain he (admits_of_validate hv)
    refine ⟨w, hw, hw.follow_eq, ?_, validate_of_admits hadmits⟩
    rintro rfl
    cases e.conforms_missing.symm.trans (conforms_iff_admits.mpr hadmits)
  · intro hframed hv
    have hwrong : ¬ d.Admits v := fun hadmits => hv (validate_of_admits hadmits)
    obtain ⟨path, leaf, w, hmem, hw, hwrong⟩ := exists_leaf_of_framed hframed hwrong
    exact ⟨path, leaf, w, hmem, hw, hw.follow_eq, fun hleaf => hwrong (admits_of_validate hleaf)⟩

/-- A roster: a title, and two players with points that may not be known. -/
def roster : Descriptor :=
  struct none [("title", string none),
    ("players", vector none 2 (pair none (string none) (maybe none (ofInteger .uint8))))]

/-- A roster with what is told of the points of the second player. -/
def givenRoster (points : Value) : Value :=
  .dict [(.str "players", .tuple [.list [.str "a", .nothing], .tuple [.str "b", points]]),
    (.str "title", .str "all")]

/-- Whatever is told of the points, the containers are right. -/
theorem framed_givenRoster (points : Value) : roster.Framed (givenRoster points) := by
  refine .struct (fun key => ?_) fun f hf w hw => ?_
  · simp [or_comm]
  · rw [List.mem_cons, List.mem_singleton] at hf
    rcases hf with rfl | rfl
    · exact .leaf rfl w
    · obtain rfl := Option.some.inj hw
      refine .vector (.tuple _) rfl fun player hplayer => ?_
      rw [List.mem_cons, List.mem_singleton] at hplayer
      rcases hplayer with rfl | rfl
      · exact .pair (.list _) (.leaf rfl _) (.leaf rfl _)
      · exact .pair (.tuple _) (.leaf rfl _) (.leaf rfl _)

/-- A roster that conforms, and one of which only a leaf does not. -/
theorem follow_conforms_roster :
    roster.validate (givenRoster (.just (.int 7))) = none ∧
      (∃ w, (givenRoster (.just (.int 7))).HasAt [.field "players", .index 1, .index 1] w ∧
        (maybe none (ofInteger .uint8)).validate w = none) ∧
      roster.Framed (givenRoster (.just (.int 300))) ∧
      roster.validate (givenRoster (.just (.int 300))) ≠ none ∧
      ∃ path leaf w, (path, leaf) ∈ roster.leafPaths ∧
        (givenRoster (.just (.int 300))).follow path = w ∧ leaf.validate w ≠ none := by
  have hv : roster.validate (givenRoster (.just (.int 7))) = none := by rfl
  have hwrong : roster.validate (givenRoster (.just (.int 300))) ≠ none := by
    have hm : roster.validate (givenRoster (.just (.int 300))) =
      some ⟨[.field "players", .index 1, .index 1], ofInteger .uint8, .int 300,
        "out of range [0, 255]"⟩ := by rfl
    rw [hm]
    exact Option.some_ne_none _
  obtain ⟨hdown, -⟩ := follow_conforms roster (givenRoster (.just (.int 7)))
  obtain ⟨-, hup⟩ := follow_conforms roster (givenRoster (.just (.int 300)))
  obtain ⟨w, hw, -, -, hpart⟩ :=
    hdown hv [.field "players", .index 1, .index 1] (maybe none (ofInteger .uint8)) rfl rfl
  obtain ⟨path, leaf, u, hmem, -, hfollow, hleaf⟩ := hup (framed_givenRoster _) hwrong
  exact ⟨hv, ⟨w, hw, hpart⟩, framed_givenRoster _, hwrong, path, leaf, u, hmem, hfollow, hleaf⟩

end Descriptor

end Conformance
