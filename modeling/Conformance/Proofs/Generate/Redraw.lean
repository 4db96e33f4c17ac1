import Conformance.Proofs.Generate.PointUpdate
import Conformance.Proofs.Validate.Diagnosis

/-!
# Conformance.Proofs.Generate.Redraw

Redrawing one part of any value that conforms.

`Conformance.Proofs.Generate.PointUpdate` follows a redraw through drawn
values, which have one form.  A value that conforms may have others: the
keys of a mapping stand in any order, a pair may be a list and a vector a
tuple.  What a redraw does to such a value is said here by what is read
back from it:

1. the part at the path is what was drawn;
2. a path that neither leads to the part, nor to what holds it, nor into it
   still leads to what was there (`Path.IsInitial` says which paths these are);
3. the whole conforms again if the part does.

`Opened` says this of one container on the way, `Updated` of a whole path.
-/

namespace Conformance

/-! ## Paths that begin alike -/

/-- A path is the beginning of another.  Segments are compared as values, so
that a boolean stands for the same item as its number. -/
def Path.IsInitial : Path → Path → Prop
  | [], _ => True
  | _ :: _, [] => False
  | s :: path, t :: other => s.toValue.same t.toValue = true ∧ IsInitial path other

instance Path.decidableIsInitial : (path other : Path) → Decidable (path.IsInitial other)
  | [], _ => .isTrue trivial
  | _ :: _, [] => .isFalse id
  | _ :: path, _ :: other => @instDecidableAnd _ _ _ (decidableIsInitial path other)

namespace Value

/-! ## Equal segments -/

/-- What counts as an integer is the same as that one alone. -/
theorem same_int_of_integer? {v : Value} {i k : Int} (hv : v.integer? = some i) :
    v.same (.int k) = true ↔ i = k := by
  cases v with
  | int n =>
    obtain rfl : n = i := Option.some.inj hv
    simp [same, sameNumber, numeric?, Numeric.order]
  | bool b =>
    obtain rfl := Option.some.inj hv
    simp [same, sameNumber, numeric?, Numeric.order]
  | _ => cases hv

theorem int_same_of_integer? {v : Value} {i k : Int} (hv : v.integer? = some i) :
    (int k).same v = true ↔ k = i := by
  cases v with
  | int n =>
    obtain rfl : n = i := Option.some.inj hv
    simp [same, sameNumber, numeric?, Numeric.order]
  | bool b =>
    obtain rfl := Option.some.inj hv
    simp [same, sameNumber, numeric?, Numeric.order]
  | _ => cases hv

/-- Being the same as a number goes both ways. -/
theorem int_same_of_same {v : Value} {k : Int} (h : v.same (.int k) = true) :
    (int k).same v = true := by
  cases v with
  | int n => exact (int_same_of_integer? rfl).mpr ((same_int_of_integer? rfl).mp h).symm
  | bool b => exact (int_same_of_integer? rfl).mpr ((same_int_of_integer? rfl).mp h).symm
  | float x =>
    simp only [same, sameNumber, numeric?, Numeric.order] at h ⊢
    cases hx : Number.compareIntFloat k x with
    | none => simp [hx] at h
    | some o => cases o <;> simp_all
  | _ => cases h

end Value

namespace Segment

/-- Segments are the same from either side. -/
theorem same_of_same {s t : Segment} (hs : s.isPlain) (h : t.toValue.same s.toValue = true) :
    s.toValue.same t.toValue = true := by
  cases s with
  | other v => cases hs
  | index i => exact Value.int_same_of_same h
  | field name =>
    have ht : t.toValue = .str name := Value.same_str.mp h
    rw [ht]
    exact Value.same_str.mpr rfl

end Segment

namespace Value

/-- A segment that is the same as a name or an integer leads where that one
does, or nowhere. -/
theorem step_of_same {s t : Segment} (hs : s.isPlain) (h : t.toValue.same s.toValue = true) :
    (∀ v : Value, v.step t = v.step s) ∨ ∀ v : Value, v.step t = .missing := by
  cases s with
  | other v => cases hs
  | field name =>
    have ht : t.toValue = .str name := same_str.mp h
    cases t with
    | index i => cases ht
    | field other =>
      obtain rfl : other = name := by simpa [Segment.toValue] using ht
      exact .inl fun _ => rfl
    | other v =>
      obtain rfl : v = .str name := ht
      refine .inr fun v => ?_
      cases v <;> rfl
  | index k =>
    cases ht : t.integer? with
    | some i =>
      obtain rfl : i = k := (same_int_of_integer? ht).mp h
      cases t with
      | field other => cases ht
      | index j =>
        obtain rfl : j = i := Option.some.inj ht
        exact .inl fun _ => rfl
      | other w =>
        have hk : (Segment.index i).integer? = some i := rfl
        refine .inl fun v => ?_
        cases v <;> simp only [step, ht, hk]
    | none =>
      cases t with
      | field other => cases h
      | index j => cases ht
      | other w =>
        refine .inr fun v => ?_
        cases v <;> simp only [step, ht]

/-! ## Entries and items put in place -/

/-- An entry that is put in is found under its name, the others under theirs. -/
theorem lookupText_insert (name other : String) (w : Value) (entries : List (Value × Value)) :
    lookupText (insert (.str name) w entries) other =
      if name = other then some w else lookupText entries other := by
  induction entries with
  | nil => rw [insert, Descriptor.lookupText_cons]
  | cons e entries ih =>
    obtain ⟨key, v⟩ := e
    rw [insert]
    by_cases hkey : key.same (.str name) = true
    · obtain rfl : key = .str name := same_str.mp hkey
      rw [if_pos hkey, Descriptor.lookupText_cons, Descriptor.lookupText_cons]
      by_cases h : name = other <;> simp [h]
    · rw [if_neg hkey]
      unfold lookupText lookup at ih ⊢
      rw [List.find?_cons, List.find?_cons]
      by_cases hother : key.same (.str other) = true
      · have hne : name ≠ other := by
          intro h
          exact hkey (h ▸ hother)
        simp [hother, hne]
      · simpa [hother] using ih

/-- A name that is a key keeps its place, and no key is added. -/
theorem keys_insert {name : String} {entries : List (Value × Value)} (w : Value)
    (h : .str name ∈ entries.map (·.1)) :
    (insert (.str name) w entries).map (·.1) = entries.map (·.1) := by
  induction entries with
  | nil => cases h
  | cons e entries ih =>
    rw [insert]
    by_cases he : e.1.same (.str name) = true
    · simp [he]
    · have hne : .str name ≠ e.1 := fun hkey => he (same_str.mpr hkey.symm)
      have hmem : .str name ∈ entries.map (·.1) := by simpa [hne] using h
      simp [he, ih hmem]

/-- A step into a sequence takes an item or leads nowhere. -/
theorem step_of_isSequence {v : Value} {items : List Value} (hv : v.IsSequence items)
    (s : Segment) : v.bare.step s =
      match s.integer? with
      | some i => item? items i
      | none => missing := by
  cases hv with
  | tuple => rfl
  | list => rfl

/-- An item that is replaced is found in its place, the others in theirs. -/
theorem item?_set {items : List Value} {k : Nat} (hk : k < items.length) (u : Value) (i : Int) :
    item? (items.set k u) i = if i = k then u else item? items i := by
  unfold item?
  by_cases hi : 0 ≤ i
  · obtain ⟨j, rfl⟩ := Int.eq_ofNat_of_zero_le hi
    by_cases hj : k = j
    · subst hj
      simp [hk]
    · have hne : (j : Int) ≠ k := fun h => hj (Int.ofNat_inj.mp h).symm
      rw [if_pos hi, if_pos hi, if_neg hne, Int.toNat_natCast, List.getElem?_set_ne hj]
  · have hne : i ≠ k := by omega
    simp [hi, hne]

end Value

namespace Descriptor

variable {s : Sampling}

/-! ## One container -/

/-- A container is opened at a segment: a redraw goes on with the part `w`
there, and `rebuild` puts another part in its place.  Read back, the part is
what was put there, and everything beside it is as it was. -/
structure Opened (s : Sampling) (segment : Segment) (d e : Descriptor) (v w : Value)
    (rebuild : Value → Value) : Prop where
  redraw : ∀ path, generateAt s (segment :: path) d v =
    (generateAt s path e w >>= fun u => pure (rebuild u))
  here : v.bare.step segment = w
  part : ∀ u, (rebuild u).bare.step segment = u
  beside : ∀ u other, other.toValue.same segment.toValue = false →
    (rebuild u).bare.step other = v.bare.step other
  admits : ∀ u, e.Admits u → d.Admits (rebuild u)

/-- A mapping is opened at the name of a field. -/
theorem opened_field {n : Option String} {fields : List (String × Descriptor)} {name : String}
    {e : Descriptor} {entries : List (Value × Value)} {w : Value}
    (hnodup : (fields.map (·.1)).Nodup) (he : field? fields name = some e)
    (hw : Value.lookupText entries name = some w) (hkeys : Declares fields entries)
    (hentries : ∀ f ∈ fields, AdmitsEntry entries f) :
    Opened s (.field name) (struct n fields) e (.dict entries) w
      fun u => .dict (Value.insert (.str name) u entries) := by
  have hkey : .str name ∈ entries.map (·.1) := Value.exists_lookupText.mp ⟨w, hw⟩
  refine ⟨fun path => ?_, ?_, fun u => ?_, fun u other hother => ?_, fun u hu => ?_⟩
  · simp only [generateAt, fieldAt, he, hw, demand_ok, pure_bind]
  · simp only [Value.bare, Value.step, hw, Option.getD_some]
  · simp only [Value.bare, Value.step, Value.lookupText_insert, if_true, Option.getD_some]
  · cases other with
    | index i => rfl
    | other x => rfl
    | field m =>
      have hne : name ≠ m := by
        intro h
        rw [← h] at hother
        simp [Segment.toValue, Value.same] at hother
      simp only [Value.bare, Value.step, Value.lookupText_insert, if_neg hne]
  · refine admits_struct ?_ fun f hf => ?_
    · intro key hmem
      rw [Value.keys_insert u hkey] at hmem
      exact hkeys key hmem
    · unfold AdmitsEntry
      rw [Value.lookupText_insert]
      by_cases hname : name = f.1
      · have hf' : field? fields name = some f.2 := by
          rw [hname]
          exact field?_of_mem hnodup hf
        obtain rfl : e = f.2 := Option.some.inj (he.symm.trans hf')
        exact ⟨u, if_pos hname, hu⟩
      · rw [if_neg hname]
        exact hentries f hf

/-- What is read back from a sequence with one item replaced. -/
theorem opened_item {segment : Segment} {k : Nat} {d e : Descriptor} {v w : Value}
    {items : List Value} {rebuild : Value → Value} (hk : segment = .index k)
    (hv : v.IsSequence items) (hw : items[k]? = some w)
    (hrebuild : ∀ u, (rebuild u).IsSequence (items.set k u))
    (hredraw : ∀ path, generateAt s (segment :: path) d v =
      (generateAt s path e w >>= fun u => pure (rebuild u)))
    (hadmits : ∀ u, e.Admits u → d.Admits (rebuild u)) :
    Opened s segment d e v w rebuild := by
  subst hk
  obtain ⟨hlt, hget⟩ := List.getElem?_eq_some_iff.mp hw
  have hseg : (Segment.index k).integer? = some (k : Int) := rfl
  refine ⟨hredraw, ?_, fun u => ?_, fun u other hother => ?_, hadmits⟩
  · rw [Value.step_of_isSequence hv, hseg]
    simp [Value.item?, hw]
  · rw [Value.step_of_isSequence (hrebuild u), hseg]
    simp [Value.item?_set hlt]
  · rw [Value.step_of_isSequence (hrebuild u), Value.step_of_isSequence hv]
    cases hi : other.integer? with
    | none => rfl
    | some i =>
      have hne : i ≠ k := by
        intro h
        have hsame : other.toValue.same (.int k) = true := (Value.same_int_of_integer? hi).mpr h
        exact absurd (hsame.symm.trans hother) (by decide)
      simp only [Value.item?_set hlt, if_neg hne]

/-- An item is redrawn in the list it is found in. -/
theorem itemAt_of_isSequence {v w : Value} {items : List Value} {k : Nat}
    (hv : v.IsSequence items) (hw : items[k]? = some w) :
    itemAt v (some (k : Int)) = .ok (items, k, w) := by
  have hnonneg : ¬ (k : Int) < 0 := by omega
  have hitems : v.items? = some items := by
    cases hv with
    | tuple => rfl
    | list => rfl
  simp [itemAt, hitems, hnonneg, hw]

/-- A container that conforms can be opened wherever its descriptor can. -/
theorem exists_opened {d e : Descriptor} {segment : Segment} {v : Value} (hd : d.WellFormed)
    (hplain : segment.isPlain) (h : stepInto d segment = .ok e) (hv : d.Admits v) :
    ∃ w rebuild, e.WellFormed ∧ e.Admits w ∧ Opened s segment d e v w rebuild := by
  cases d with
  | boolean | string | number | integer | enum | maybe | fn => simp [stepInto] at h
  | struct n fields =>
    obtain ⟨-, hnodup, hfields⟩ := hd
    obtain ⟨name, rfl, he⟩ := stepInto_struct h
    have hmem := mem_of_field? he
    cases hv with
    | @struct _ _ entries hkeys hentries =>
      have hentry : ∀ f ∈ fields, AdmitsEntry entries f := by
        intro f hf
        obtain ⟨w, hw⟩ := Value.exists_lookupText.mpr ((hkeys (.str f.1)).mpr ⟨f, hf, rfl⟩)
        exact ⟨w, hw, hentries f hf w hw⟩
      obtain ⟨w, hw, hadmits⟩ := hentry (name, e) hmem
      exact ⟨w, _, wellFormed_of_mem hfields hmem, hadmits,
        opened_field hnodup he hw (fun key => (hkeys key).mp) hentry⟩
  | pair n first second =>
    obtain ⟨-, hfirst, hsecond⟩ := hd
    cases hv with
    | @pair _ _ _ _ a b hv ha hb =>
      rcases stepInto_pair hplain h with ⟨rfl, rfl⟩ | ⟨rfl, rfl⟩
      · have hside : (Segment.index 0).component? = some false := rfl
        have hitem : itemAt v (Segment.index 0).integer? = .ok ([a, b], 0, a) :=
          itemAt_of_isSequence hv rfl
        refine ⟨a, fun u => .tuple [u, b], hfirst, ha,
          opened_item (k := 0) rfl hv rfl (fun u => .tuple _) (fun path => ?_) fun u hu => ?_⟩
        · simp [generateAt, hside, hitem]
        · exact .pair (.tuple _) hu hb
      · have hside : (Segment.index 1).component? = some true := rfl
        have hitem : itemAt v (Segment.index 1).integer? = .ok ([a, b], 1, b) :=
          itemAt_of_isSequence hv rfl
        refine ⟨b, fun u => .tuple [a, u], hsecond, hb,
          opened_item (k := 1) rfl hv rfl (fun u => .tuple _) (fun path => ?_) fun u hu => ?_⟩
        · simp [generateAt, hside, hitem]
        · exact .pair (.tuple _) ha hu
  | vector n length element =>
    obtain ⟨-, -, helement⟩ := hd
    obtain ⟨k, hk, rfl, rfl⟩ := stepInto_vector hplain h
    cases hv with
    | @vector _ _ _ _ items hv hlength hitems =>
      have hw : items[k]? = some items[k] := List.getElem?_eq_getElem (by omega)
      refine ⟨items[k], fun u => .list (items.set k u), helement, hitems _ (List.getElem_mem _),
        opened_item rfl hv hw (fun u => .list _) (fun path => ?_) fun u hu => ?_⟩
      · simp only [generateAt, Segment.integer?, Segment.toValue, Value.integer?,
          itemAt_of_isSequence hv hw, demand_ok, pure_bind]
      · refine .vector (.list _) (by rw [List.length_set, hlength]) fun x hx => ?_
        rcases List.mem_or_eq_of_mem_set hx with hx | rfl
        · exact hitems x hx
        · exact hu

/-! ## Along a path -/

/-- A redraw at a path draws for the descriptor of the part, and `rebuild`
puts what was drawn in its place. -/
structure Updated (s : Sampling) (path : Path) (d e : Descriptor) (v : Value)
    (rebuild : Value → Value) : Prop where
  redraw : generateAt s path d v = (generate s e >>= fun u => pure (rebuild u))
  part : ∀ u, (rebuild u).follow path = u
  beside : ∀ u other, ¬ other.IsInitial path → ¬ path.IsInitial other →
    (rebuild u).follow other = v.follow other
  admits : ∀ u, e.Admits u → d.Admits (rebuild u)

/-- To redraw the whole is to replace it. -/
theorem updated_nil (d : Descriptor) (v : Value) : Updated s [] d d v id where
  redraw := by
    rw [generateAt]
    exact (bind_pure _).symm
  part _ := rfl
  beside _ _ _ h := absurd trivial h
  admits _ h := h

/-- An update of the part in a container is an update of the container. -/
theorem Opened.updated {segment : Segment} {path : Path} {d e f : Descriptor} {v w : Value}
    {outer inner : Value → Value} (hplain : segment.isPlain)
    (houter : Opened s segment d e v w outer) (hinner : Updated s path e f w inner) :
    Updated s (segment :: path) d f v fun u => outer (inner u) where
  redraw := by
    rw [houter.redraw path, hinner.redraw, bind_assoc]
    simp only [pure_bind]
  part u := by
    rw [Value.follow, houter.part, hinner.part]
  beside u other hinitial hextends := by
    cases other with
    | nil => exact absurd trivial hinitial
    | cons t other =>
      rw [Value.follow, Value.follow]
      by_cases ht : t.toValue.same segment.toValue = true
      · -- the path enters the same part, or it is a step to nowhere
        rcases Value.step_of_same hplain ht with hstep | hstep
        · rw [hstep, hstep, houter.part, houter.here]
          refine hinner.beside u other (fun h => hinitial ⟨ht, h⟩) fun h => hextends ⟨?_, h⟩
          exact Segment.same_of_same hplain ht
        · rw [hstep, hstep]
      · rw [houter.beside _ t ((Bool.not_eq_true _).mp ht)]
  admits u hu := houter.admits _ (hinner.admits u hu)

/-- A value that conforms can be updated along every path of its descriptor. -/
theorem exists_updated (path : Path) {d e : Descriptor} {v : Value} (hd : d.WellFormed)
    (hplain : path.all Segment.isPlain) (h : d.descriptorAt path = .ok e) (hv : d.Admits v) :
    ∃ rebuild, Updated s path d e v rebuild := by
  induction path generalizing d v with
  | nil =>
    obtain rfl : d = e := Except.ok.inj h
    exact ⟨id, updated_nil d v⟩
  | cons segment path ih =>
    rw [List.all_cons, Bool.and_eq_true] at hplain
    rw [descriptorAt] at h
    split at h
    · next f hf =>
      obtain ⟨w, outer, hwf, hw, houter⟩ := exists_opened hd hplain.1 hf hv
      obtain ⟨inner, hinner⟩ := ih hwf hplain.2 h hw
      exact ⟨_, houter.updated hplain.1 hinner⟩
    · cases h

/-- Redrawing a part is a point update.  For a value that conforms, at every
path of names and integers to a part without functions, provided that the
draw is not given up:

1. the redraw yields a value, and the source is left where drawing the part
   alone leaves it; the part at the path is what that draw yields;
2. every path that is neither the beginning of the path nor begins with it
   leads to what it led to before;
3. if the new part conforms to the descriptor at the path, the result
   conforms to the whole. -/
theorem generateAt_updates (s : Sampling) {d e : Descriptor} {v : Value} {path : Path}
    {source : Twister} (hd : d.WellFormed) (hv : d.validate v = none)
    (hplain : path.all Segment.isPlain) (he : d.descriptorAt path = .ok e)
    (hf : ¬ e.HasFunction) (hdraw : ((generate s e).runFrom source).1 ≠ .error .unfinished) :
    ∃ w result after, (generate s e).runFrom source = (.ok w, after) ∧
      (generateAt s path d v).runFrom source = (.ok result, after) ∧
      result.follow path = w ∧
      (∀ other, ¬ other.IsInitial path → ¬ path.IsInitial other →
        result.follow other = v.follow other) ∧
      (e.validate w = none → d.validate result = none) := by
  obtain ⟨rebuild, hupdated⟩ := exists_updated (s := s) path hd hplain he (admits_of_validate hv)
  have hgives : (generate s e).OnlyGivesUp := by
    rw [generate_eq_sample s hf]
    exact onlyGivesUp_sample s e
  rcases hgives.cases source with ⟨w, after, hw⟩ | ⟨after, hgiven⟩
  · refine ⟨w, rebuild w, after, hw, ?_, hupdated.part w, hupdated.beside w, fun hconforms => ?_⟩
    · rw [hupdated.redraw, Draw.runFrom_bind, hw]
      rfl
    · exact validate_of_admits (hupdated.admits w (admits_of_validate hconforms))
  · rw [hgiven] at hdraw
    exact absurd rfl hdraw

/-- A squad of two with their points, a list of pairs. -/
def squad : Descriptor :=
  vector none 2 (struct none [("points", pair none (ofInteger .uint8) (boolean none))])

/-- A squad that conforms, though no value of this form is drawn. -/
def givenSquad : Value :=
  .tuple [.dict [(.str "points", .list [.int 7, .bool true])],
    .dict [(.str "points", .list [.int 9, .bool false])]]

theorem generateAt_updates_givenSquad :
    let path : Path := [.index 1, .field "points", .index 0]
    squad.WellFormed ∧ squad.validate givenSquad = none ∧
      squad.descriptorAt path = .ok (ofInteger .uint8) ∧ ¬ (ofInteger .uint8).HasFunction ∧
      ∃ w result after, (generate {} (ofInteger .uint8)).runFrom zeros = (.ok w, after) ∧
        (generateAt {} path squad givenSquad).runFrom zeros = (.ok result, after) ∧
        result.follow path = w ∧
        result.follow [.index 1, .field "points", .other (.bool true)] = .bool false ∧
        squad.validate result = none := by
  intro path
  have hd : squad.WellFormed := by
    simp [squad, WellFormed, FieldsWellFormed, NameWellFormed, ofInteger, IntegerKind.low,
      IntegerKind.high]
  have hv : squad.validate givenSquad = none := rfl
  have hplain : path.all Segment.isPlain := rfl
  have he : squad.descriptorAt path = .ok (ofInteger .uint8) := rfl
  have hf : ¬ (ofInteger .uint8).HasFunction := id
  have hyields : ((generate {} (ofInteger .uint8)).runFrom zeros).1.toOption.any
      (ofInteger .uint8).conforms = true := by decide +kernel
  have hrun : ((generate {} (ofInteger .uint8)).runFrom zeros).1 ≠ .error .unfinished := by
    intro h
    rw [h] at hyields
    cases hyields
  have hbeside : ¬ Path.IsInitial [.index 1, .field "points", .other (.bool true)] path ∧
      ¬ path.IsInitial [.index 1, .field "points", .other (.bool true)] := by decide +kernel
  obtain ⟨w, result, after, hw, hresult, hpart, hframe, hconforms⟩ :=
    generateAt_updates {} hd hv hplain he hf hrun
  refine ⟨hd, hv, he, hf, w, result, after, hw, hresult, hpart, ?_, ?_⟩
  · rw [hframe _ hbeside.1 hbeside.2]
    rfl
  · rw [hw] at hyields
    exact hconforms (Option.isNone_iff_eq_none.mp hyields)

end Descriptor

end Conformance
