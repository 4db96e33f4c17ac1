import Conformance.Proofs.Validate.Admits
import Mathlib.Data.List.Forall2
import Mathlib.Logic.Relation

/-!
# Conformance.Proofs.Validate.Arrangement

What does not matter to whether a value conforms.

1. The order in which the fields of a struct are declared, at any depth
   (`Descriptor.Reordered`).
2. The order of the entries of a mapping, and whether items stand in a list
   or in a tuple, wherever in the value (`Value.Rearranged`).

Each relation is one change at one place.  A change leaves the admitted
values what they are (`Reordered.alike`, `Rearranged.alike`), hence so does
any number of them.  It can change the mismatch that is told: of two fields
that do not conform, it is the one that is declared first.
-/

namespace Conformance

/-! ## Values -/

namespace Value

/-- No key of a mapping stands twice, as it does in no mapping that is built
entry by entry (`keysDiffer_ofEntries`). -/
def KeysDiffer (entries : List (Value × Value)) : Prop :=
  entries.Pairwise fun e f => e.1.same f.1 = false

/-- One change of a value that keeps what it holds: the entries of a mapping
are put in another order, or a list is made a tuple or a tuple a list. -/
inductive Rearranged : Value → Value → Prop
  | entries {es fs} (hkeys : KeysDiffer es) (h : es.Perm fs) : Rearranged (dict es) (dict fs)
  | toTuple (items : List Value) : Rearranged (list items) (tuple items)
  | toList (items : List Value) : Rearranged (tuple items) (list items)
  | entry {before key v w after} (h : Rearranged v w) :
    Rearranged (dict (before ++ (key, v) :: after)) (dict (before ++ (key, w) :: after))
  | listItem {before v w after} (h : Rearranged v w) :
    Rearranged (list (before ++ v :: after)) (list (before ++ w :: after))
  | tupleItem {before v w after} (h : Rearranged v w) :
    Rearranged (tuple (before ++ v :: after)) (tuple (before ++ w :: after))
  | inner {v w} (h : Rearranged v w) : Rearranged (just v) (just w)

/-- Two values that the same descriptors admit. -/
def Alike (v w : Value) : Prop := ∀ d : Descriptor, d.Admits v ↔ d.Admits w

theorem Alike.refl (v : Value) : Alike v v := fun _ => Iff.rfl

theorem Alike.symm {v w : Value} (h : Alike v w) : Alike w v := fun d => (h d).symm

/-! ### Entries -/

/-- To put an entry in adds its key and no other. -/
theorem mem_insert {key v : Value} {entries : List (Value × Value)} {e : Value × Value}
    (h : e ∈ insert key v entries) : e.1 = key ∨ e.1 ∈ entries.map (·.1) := by
  induction entries with
  | nil => exact .inl (congrArg Prod.fst (List.mem_singleton.mp h))
  | cons f entries ih =>
    rw [insert] at h
    split at h
    · rcases List.mem_cons.mp h with rfl | h
      · exact .inr List.mem_cons_self
      · exact .inr (List.mem_cons_of_mem _ (List.mem_map_of_mem h))
    · rcases List.mem_cons.mp h with rfl | h
      · exact .inr List.mem_cons_self
      · exact (ih h).imp_right (List.mem_cons_of_mem _)

/-- Keys that differ do so after another entry is put in. -/
theorem keysDiffer_insert {entries : List (Value × Value)} (h : KeysDiffer entries)
    (key v : Value) : KeysDiffer (insert key v entries) := by
  induction entries with
  | nil => exact List.pairwise_singleton _ _
  | cons f entries ih =>
    obtain ⟨hf, hentries⟩ := List.pairwise_cons.mp h
    rw [insert]
    split
    · exact List.pairwise_cons.mpr ⟨hf, hentries⟩
    · next hkey =>
      refine List.pairwise_cons.mpr ⟨fun e he => ?_, ih hentries⟩
      rcases mem_insert he with hnew | hold
      · rw [hnew]
        exact Bool.eq_false_iff.mpr hkey
      · obtain ⟨g, hg, hkey'⟩ := List.mem_map.mp hold
        rw [← hkey']
        exact hf g hg

/-- The keys of a mapping made of entries differ. -/
theorem keysDiffer_ofEntries (entries : List (Value × Value)) : KeysDiffer (ofEntries entries) := by
  have hfold : ∀ es, KeysDiffer es →
      KeysDiffer (entries.foldl (fun es e => insert e.1 e.2 es) es) := by
    induction entries with
    | nil => exact fun es h => h
    | cons e entries ih => exact fun es h => ih _ (keysDiffer_insert h e.1 e.2)
  exact hfold [] .nil

/-- Under one name there is one value. -/
theorem eq_of_keysDiffer {entries : List (Value × Value)} (h : KeysDiffer entries) {name : String}
    {v w : Value} (hv : (.str name, v) ∈ entries) (hw : (.str name, w) ∈ entries) : v = w := by
  induction entries with
  | nil => cases hv
  | cons e entries ih =>
    obtain ⟨he, hentries⟩ := List.pairwise_cons.mp h
    -- an entry under the name has no other one behind it
    have hlast : ∀ u u', e = (.str name, u) → (.str name, u') ∉ entries := by
      rintro u u' rfl hmem
      have hdiffer := he _ hmem
      rw [same_str.mpr rfl] at hdiffer
      cases hdiffer
    rcases List.mem_cons.mp hv with hve | hvs
    · rcases List.mem_cons.mp hw with hwe | hws
      · exact congrArg Prod.snd (hve.trans hwe.symm)
      · exact absurd hws (hlast v w hve.symm)
    · rcases List.mem_cons.mp hw with hwe | hws
      · exact absurd hvs (hlast w v hwe.symm)
      · exact ih hentries hvs hws

/-- Where no two values stand under a name, looking it up finds the one that does. -/
theorem lookupText_eq_some_iff {entries : List (Value × Value)} {name : String}
    (h : ∀ v w, (.str name, v) ∈ entries → (.str name, w) ∈ entries → v = w) {v : Value} :
    lookupText entries name = some v ↔ (.str name, v) ∈ entries := by
  have hfound : ∀ u, lookupText entries name = some u → (.str name, u) ∈ entries := by
    intro u hu
    obtain ⟨⟨key, _⟩, he, rfl⟩ := Option.map_eq_some_iff.mp hu
    have hkey := List.find?_some he
    obtain rfl := same_str.mp hkey
    exact List.mem_of_find?_eq_some he
  refine ⟨hfound v, fun hv => ?_⟩
  obtain ⟨u, hu⟩ := exists_lookupText.mpr (List.mem_map_of_mem (f := (·.1)) hv)
  rw [hu, h u v (hfound u hu) hv]

/-- What is found under a name does not depend on the order of the entries. -/
theorem lookupText_perm {es fs : List (Value × Value)} (hkeys : KeysDiffer es) (h : es.Perm fs)
    (name : String) : lookupText es name = lookupText fs name := by
  have hes : ∀ v w, (.str name, v) ∈ es → (.str name, w) ∈ es → v = w :=
    fun _ _ => eq_of_keysDiffer hkeys
  have hfs : ∀ v w, (.str name, v) ∈ fs → (.str name, w) ∈ fs → v = w :=
    fun v w hv hw => hes v w (h.mem_iff.mpr hv) (h.mem_iff.mpr hw)
  ext v
  rw [lookupText_eq_some_iff hes, lookupText_eq_some_iff hfs, h.mem_iff]

/-- The values under a name before and after the value of one entry is changed. -/
theorem lookupText_entry {before after : List (Value × Value)} {key v w : Value}
    (h : Alike v w) (name : String) :
    Option.Rel Alike (lookupText (before ++ (key, v) :: after) name)
      (lookupText (before ++ (key, w) :: after) name) := by
  unfold lookupText lookup
  rw [List.find?_append, List.find?_append]
  cases before.find? fun e => e.1.same (.str name) with
  | some e => exact .some (Alike.refl e.2)
  | none =>
    by_cases hkey : key.same (.str name) = true
    · simp only [List.find?_cons, hkey]
      exact .some h
    · simp only [List.find?_cons, hkey]
      cases after.find? fun e => e.1.same (.str name) with
      | some e => exact .some (Alike.refl e.2)
      | none => exact .none

/-- What admits a mapping admits another with the same keys, if a like value
stands under each name of it. -/
theorem admits_dict {d : Descriptor} {es fs : List (Value × Value)}
    (hkeys : ∀ key, key ∈ es.map (·.1) ↔ key ∈ fs.map (·.1))
    (h : ∀ name, Option.Rel Alike (lookupText es name) (lookupText fs name))
    (hd : d.Admits (dict es)) : d.Admits (dict fs) := by
  cases hd with
  | struct hdeclared hentries =>
    refine .struct (fun key => (hkeys key).symm.trans (hdeclared key)) fun f hf w hw => ?_
    obtain ⟨v, hv, hvw⟩ : ∃ v, lookupText es f.1 = some v ∧ Alike v w := by
      have hvalues := h f.1
      rw [hw] at hvalues
      generalize lookupText es f.1 = found at hvalues
      cases hvalues with
      | some hvw => exact ⟨_, rfl, hvw⟩
    exact (hvw f.2).mp (hentries f hf v hv)
  | pair hv => cases hv
  | vector hv => cases hv

/-- Mappings with the same keys and with like values under each name are alike. -/
theorem alike_dict {es fs : List (Value × Value)}
    (hkeys : ∀ key, key ∈ es.map (·.1) ↔ key ∈ fs.map (·.1))
    (h : ∀ name, Option.Rel Alike (lookupText es name) (lookupText fs name)) :
    Alike (dict es) (dict fs) := by
  have hback : ∀ name, Option.Rel Alike (lookupText fs name) (lookupText es name) := by
    intro name
    have hname := h name
    generalize lookupText es name = v at hname
    generalize lookupText fs name = w at hname
    cases hname with
    | some hvw => exact .some hvw.symm
    | none => exact .none
  exact fun d => ⟨admits_dict hkeys h, admits_dict (fun key => (hkeys key).symm) hback⟩

/-! ### Items -/

/-- A sequence has one list of items. -/
theorem IsSequence.unique {v : Value} {xs ys : List Value} (h : v.IsSequence xs)
    (h' : v.IsSequence ys) : xs = ys := by
  cases h with
  | tuple =>
    cases h'
    rfl
  | list =>
    cases h'
    rfl

/-- Every item of the one list has its like in the other. -/
theorem exists_alike_of_mem {xs ys : List Value} (h : List.Forall₂ Alike xs ys) {w : Value}
    (hw : w ∈ ys) : ∃ v ∈ xs, Alike v w := by
  induction h with
  | nil => cases hw
  | @cons v u xs ys hvu h ih =>
    rcases List.mem_cons.mp hw with rfl | hw
    · exact ⟨v, List.mem_cons_self, hvu⟩
    · obtain ⟨x, hx, hxw⟩ := ih hw
      exact ⟨x, List.mem_cons_of_mem v hx, hxw⟩

/-- What admits a sequence admits another of as many like items, be it a list
or a tuple. -/
theorem admits_sequence {d : Descriptor} {v w : Value} {xs ys : List Value}
    (hv : v.IsSequence xs) (hw : w.IsSequence ys) (h : List.Forall₂ Alike xs ys)
    (hd : d.Admits v) : d.Admits w := by
  cases hd with
  | pair hv' ha hb =>
    obtain rfl := hv.unique hv'
    obtain _ | ⟨hac, _ | ⟨hbd, ⟨⟩⟩⟩ := h
    exact .pair hw ((hac _).mp ha) ((hbd _).mp hb)
  | vector hv' hlength hitems =>
    obtain rfl := hv.unique hv'
    refine .vector hw (h.length_eq.symm.trans hlength) fun y hy => ?_
    obtain ⟨x, hx, hxy⟩ := exists_alike_of_mem h hy
    exact (hxy _).mp (hitems x hx)
  | _ => cases hv

/-- Sequences with like items are alike, be they lists or tuples. -/
theorem alike_sequence {v w : Value} {xs ys : List Value} (hv : v.IsSequence xs)
    (hw : w.IsSequence ys) (h : List.Forall₂ Alike xs ys) : Alike v w := by
  have hback : List.Forall₂ Alike ys xs := (h.imp fun _ _ hxy => hxy.symm).flip
  exact fun d => ⟨admits_sequence hv hw h, admits_sequence hw hv hback⟩

theorem forall₂_alike_refl (items : List Value) : List.Forall₂ Alike items items :=
  List.forall₂_same.mpr fun v _ => Alike.refl v

/-- Items of which one is changed for a like one. -/
theorem forall₂_alike {v w : Value} (h : Alike v w) (before after : List Value) :
    List.Forall₂ Alike (before ++ v :: after) (before ++ w :: after) :=
  List.rel_append (forall₂_alike_refl before) (.cons h (forall₂_alike_refl after))

/-- What is inside a `just` may be replaced by its like. -/
theorem admits_just {d : Descriptor} {v w : Value} (h : Alike v w) (hd : d.Admits (just v)) :
    d.Admits (just w) := by
  cases hd with
  | pair hv => cases hv
  | vector hv => cases hv
  | just hv => exact .just ((h _).mp hv)

/-- A change leaves the descriptors that admit a value what they are. -/
theorem Rearranged.alike {v w : Value} (h : Rearranged v w) : Alike v w := by
  induction h with
  | @entries es fs hkeys h =>
    refine alike_dict (fun key => (h.map _).mem_iff) fun name => ?_
    rw [← lookupText_perm hkeys h name]
    cases lookupText es name with
    | some v => exact .some (Alike.refl v)
    | none => exact .none
  | toTuple items => exact alike_sequence (.list items) (.tuple items) (forall₂_alike_refl items)
  | toList items => exact alike_sequence (.tuple items) (.list items) (forall₂_alike_refl items)
  | @entry before key v w after h ih =>
    refine alike_dict (fun other => ?_) (lookupText_entry ih)
    simp only [List.map_append, List.map_cons]
  | listItem h ih => exact alike_sequence (.list _) (.list _) (forall₂_alike ih _ _)
  | tupleItem h ih => exact alike_sequence (.tuple _) (.tuple _) (forall₂_alike ih _ _)
  | inner h ih => exact fun d => ⟨admits_just ih, admits_just ih.symm⟩

end Value

/-! ## Descriptors -/

namespace Descriptor

/-- One change of a descriptor that keeps what it declares: the fields of a
struct are put in another order. -/
inductive Reordered : Descriptor → Descriptor → Prop
  | fields {n fs gs} (h : fs.Perm gs) : Reordered (struct n fs) (struct n gs)
  | field {n before name d e after} (h : Reordered d e) :
    Reordered (struct n (before ++ (name, d) :: after)) (struct n (before ++ (name, e) :: after))
  | first {n d e second} (h : Reordered d e) : Reordered (pair n d second) (pair n e second)
  | second {n first d e} (h : Reordered d e) : Reordered (pair n first d) (pair n first e)
  | element {n length d e} (h : Reordered d e) : Reordered (vector n length d) (vector n length e)
  | inner {n d e} (h : Reordered d e) : Reordered (maybe n d) (maybe n e)
  | input {n d e output} (h : Reordered d e) : Reordered (fn n d output) (fn n e output)
  | output {n input d e} (h : Reordered d e) : Reordered (fn n input d) (fn n input e)

/-- Fields can be put back in their order. -/
theorem Reordered.symm {d e : Descriptor} (h : Reordered d e) : Reordered e d := by
  induction h with
  | fields h => exact .fields h.symm
  | field _ ih => exact .field ih
  | first _ ih => exact .first ih
  | second _ ih => exact .second ih
  | element _ ih => exact .element ih
  | inner _ ih => exact .inner ih
  | input _ ih => exact .input ih
  | output _ ih => exact .output ih

/-- What is admitted before a change is admitted after it. -/
theorem Reordered.admits {d e : Descriptor} (h : Reordered d e) {v : Value} (hv : d.Admits v) :
    e.Admits v := by
  induction h generalizing v with
  | @fields n fs gs h =>
    cases hv with
    | struct hkeys hentries =>
      refine .struct (fun key => ?_) fun g hg => hentries g (h.mem_iff.mpr hg)
      simp only [hkeys key, h.mem_iff]
  | @field n before name d e after h ih =>
    cases hv with
    | struct hkeys hentries =>
      refine .struct (fun key => ?_) fun g hg w hw => ?_
      · rw [hkeys key]
        simp only [List.mem_append, List.mem_cons, or_and_right, exists_or, exists_eq_left]
      · rcases List.mem_append.mp hg with hg | hg
        · exact hentries g (List.mem_append_left _ hg) w hw
        · rcases List.mem_cons.mp hg with rfl | hg
          · exact ih (hentries (name, d) (List.mem_append_right _ List.mem_cons_self) w hw)
          · exact hentries g (List.mem_append_right _ (List.mem_cons_of_mem _ hg)) w hw
  | first h ih =>
    cases hv with
    | pair hv ha hb => exact .pair hv (ih ha) hb
  | second h ih =>
    cases hv with
    | pair hv ha hb => exact .pair hv ha (ih hb)
  | element h ih =>
    cases hv with
    | vector hv hlength hitems => exact .vector hv hlength fun w hw => ih (hitems w hw)
  | inner h ih =>
    cases hv with
    | nothing => exact .nothing _ _
    | just hv => exact .just (ih hv)
  | input h ih | output h ih =>
    cases hv with
    | function n input output f => exact .function _ _ _ f

/-! ## Any number of changes -/

/-- However often fields change places, the same values are admitted. -/
theorem admits_of_reordered {d e : Descriptor} (h : Relation.ReflTransGen Reordered d e)
    (v : Value) : d.Admits v ↔ e.Admits v := by
  induction h with
  | refl => exact Iff.rfl
  | tail _ hstep ih => exact ih.trans ⟨hstep.admits, hstep.symm.admits⟩

/-- However often a value is rearranged, the same descriptors admit it. -/
theorem admits_of_rearranged (d : Descriptor) {v w : Value}
    (h : Relation.ReflTransGen Value.Rearranged v w) : d.Admits v ↔ d.Admits w := by
  induction h with
  | refl => exact Iff.rfl
  | tail _ hstep ih => exact ih.trans (hstep.alike d)

/-- Whether a value conforms does not depend on the order of the fields of
structs and of the entries of mappings, nor on whether items stand in a list
or in a tuple. -/
theorem conforms_rearranged {d e : Descriptor} {v w : Value}
    (hd : Relation.ReflTransGen Reordered d e) (hv : Relation.ReflTransGen Value.Rearranged v w) :
    d.conforms v = e.conforms w := by
  rw [Bool.eq_iff_iff, conforms_iff_admits, conforms_iff_admits, admits_of_rearranged d hv,
    admits_of_reordered hd]

/-- A name and a position. -/
def site : Descriptor :=
  struct none [("name", string none), ("at", pair none (ofInteger .uint8) (ofInteger .uint8))]

/-- A position and a name. -/
def siteReversed : Descriptor :=
  struct none [("at", pair none (ofInteger .uint8) (ofInteger .uint8)), ("name", string none)]

theorem conforms_rearranged_site :
    let v : Value := .dict [(.str "name", .str "Inn"), (.str "at", .tuple [.int 3, .int 4])]
    let w : Value := .dict [(.str "at", .list [.int 3, .int 4]), (.str "name", .str "Inn")]
    Relation.ReflTransGen Reordered site siteReversed ∧
      Relation.ReflTransGen Value.Rearranged v w ∧
      site.conforms v = siteReversed.conforms w ∧ site.conforms v = true := by
  intro v w
  have hd : Relation.ReflTransGen Reordered site siteReversed :=
    .single (.fields (.swap _ _ []))
  have hv : Relation.ReflTransGen Value.Rearranged v w := by
    have hkeys : Value.KeysDiffer
        [(.str "name", .str "Inn"), (.str "at", .list [.int 3, .int 4])] := by
      simp [Value.KeysDiffer, Value.same]
    have hlist : Value.Rearranged v
        (.dict [(.str "name", .str "Inn"), (.str "at", .list [.int 3, .int 4])]) :=
      @Value.Rearranged.entry [(.str "name", .str "Inn")] (.str "at") _ _ [] (.toList _)
    exact .head hlist (.single (.entries hkeys (.swap _ _ [])))
  exact ⟨hd, hv, conforms_rearranged hd hv, rfl⟩

/-- Which mismatch is told does depend on the order of the fields. -/
example : ∃ m m', site.validate (.dict [(.str "name", .int 0), (.str "at", .int 0)]) = some m ∧
    siteReversed.validate (.dict [(.str "name", .int 0), (.str "at", .int 0)]) = some m' ∧
    m.path = [.field "name"] ∧ m'.path = [.field "at"] :=
  ⟨_, _, rfl, rfl, rfl, rfl⟩

end Descriptor

end Conformance
