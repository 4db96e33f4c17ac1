import Conformance.Proofs.Generate.Redraw
import Conformance.Proofs.Validate.Place

/-!
# Conformance.Proofs.Generate.Accepts

The paths that `generateAt` goes along, against those of `descriptorAt`.

Both open a container in the same steps but one: a vector is opened by
`descriptorAt` at the indices of its items, while `generateAt` looks the
index up among the items of the value.  So the two agree on every path but
those that stray (`StraysAt`), that is, come to a vector with an index that
none of its items has.  There `descriptorAt` refuses, and `generateAt`

* counts from the back an index that is negative and not below minus the
  length, and redraws the item that it comes to;
* ends in an `IndexError` at any other.

A conforming value has a part at every path that `descriptorAt` accepts, and
a redraw past such a path is a redraw in that part (`exists_reached`).  What
is left to compare is the one step at which a walk is refused.
-/

namespace Conformance

/-- A draw that raises an error of a kind and leaves the source alone. -/
def Draw.Raises {α : Type} (d : Draw α) (kind : String) : Prop :=
  ∃ error : Error, error.kind = kind ∧ d = throw (.of error)

/-- A draw that raises raises whatever would have followed. -/
theorem Draw.Raises.bind {α β : Type} {d : Draw α} {kind : String} (h : d.Raises kind)
    (f : α → Draw β) : (d >>= f).Raises kind := by
  obtain ⟨error, hkind, rfl⟩ := h
  exact ⟨error, hkind, rfl⟩

/-- What raises does so from every source, and takes nothing from it. -/
theorem Draw.Raises.runFrom {α : Type} {d : Draw α} {kind : String} (h : d.Raises kind)
    (t : Twister) : ∃ error : Error, error.kind = kind ∧ d.runFrom t = (.error (.of error), t) := by
  obtain ⟨error, hkind, rfl⟩ := h
  exact ⟨error, hkind, rfl⟩

namespace Descriptor

variable {s : Sampling}

/-! ## Up to the part that is reached -/

/-- What holds the part at a path is opened on the way to it. -/
theorem exists_reached (before : Path) {d e : Descriptor} {v : Value} (hd : d.WellFormed)
    (hplain : before.all Segment.isPlain) (h : d.descriptorAt before = .ok e) (hv : d.Admits v) :
    ∃ (w : Value) (rebuild : Value → Value), e.WellFormed ∧ e.Admits w ∧
      ∀ after, generateAt s (before ++ after) d v =
        (generateAt s after e w >>= fun u => pure (rebuild u)) := by
  induction before generalizing d v with
  | nil =>
    obtain rfl : d = e := Except.ok.inj h
    exact ⟨v, id, hd, hv, fun after => (bind_pure _).symm⟩
  | cons segment before ih =>
    rw [List.all_cons, Bool.and_eq_true] at hplain
    rw [descriptorAt] at h
    split at h
    · next f hf =>
      obtain ⟨w, outer, hwf, hw, houter⟩ := exists_opened (s := s) hd hplain.1 hf hv
      obtain ⟨u, inner, hwf', hu, hinner⟩ := ih hwf hplain.2 h hw
      refine ⟨u, fun x => outer (inner x), hwf', hu, fun after => ?_⟩
      rw [List.cons_append, houter.redraw, hinner, bind_assoc]
      simp only [pure_bind]
    · cases h

/-- A walk is refused at one step. -/
theorem exists_refused_step {d : Descriptor} {path : Path} {error : Error}
    (h : d.descriptorAt path = .error error) : ∃ before segment after e,
      path = before ++ segment :: after ∧ d.descriptorAt before = .ok e ∧
        e.stepInto segment = .error error := by
  induction path generalizing d with
  | nil => cases h
  | cons segment path ih =>
    rw [descriptorAt] at h
    split at h
    · next f hf =>
      obtain ⟨before, t, after, e, rfl, hbefore, hrefused⟩ := ih h
      exact ⟨segment :: before, t, after, e, rfl, (descriptorAt_cons hf before).trans hbefore,
        hrefused⟩
    · next refusal hf =>
      obtain rfl := Except.error.inj h
      exact ⟨[], segment, path, d, rfl, rfl, hf⟩

/-! ## The step that is refused -/

/-- A path comes to a vector of a length with an index that no item has. -/
def StraysAt (d : Descriptor) (before : Path) (i : Int) (length : Nat) : Prop :=
  ∃ n element, d.descriptorAt before = .ok (vector n length element) ∧ ¬ (0 ≤ i ∧ i < length)

/-- A path comes to a vector with an index that no item has. -/
def Strays (d : Descriptor) (path : Path) : Prop :=
  ∃ before i after length, path = before ++ .index i :: after ∧ d.StraysAt before i length

/-- A segment that leads nowhere is a key that is not there. -/
theorem kind_of_stepInto {d : Descriptor} {segment : Segment} {error : Error}
    (h : d.stepInto segment = .error error) : error.kind = "KeyError" := by
  unfold stepInto at h
  split at h <;> (repeat' split at h) <;> cases h <;> rfl

theorem kind_of_descriptorAt {d : Descriptor} {path : Path} {error : Error}
    (h : d.descriptorAt path = .error error) : error.kind = "KeyError" := by
  obtain ⟨before, segment, after, e, -, -, hrefused⟩ := exists_refused_step h
  exact kind_of_stepInto hrefused

/-- Whatever is no vector is opened by a redraw where the descriptor is, and
is refused in the same way elsewhere; so is a vector, at a name. -/
theorem raises_of_stepInto {d : Descriptor} {segment : Segment} {v : Value} {error : Error}
    (hplain : segment.isPlain) (h : d.stepInto segment = .error error) (hv : d.Admits v)
    (hindex : ∀ n length element, d = vector n length element → ∀ i, segment ≠ .index i)
    (path : Path) : (generateAt s (segment :: path) d v).Raises "KeyError" := by
  cases d with
  | boolean | string | number | integer | enum | maybe | fn => exact ⟨_, rfl, rfl⟩
  | struct n fields =>
    cases segment with
    | index i => exact ⟨_, rfl, rfl⟩
    | other x => cases hplain
    | field name =>
      have hnone : field? fields name = none := by
        cases hfield : field? fields name with
        | none => rfl
        | some e => cases (stepInto_field hfield).symm.trans h
      cases hv with
      | struct hkeys hentries =>
        have hfield : ∀ entries, fieldAt fields (.dict entries) name = .error (.intrinsic .key) := by
          intro entries
          simp only [fieldAt, hnone]
        simp only [generateAt, hfield]
        exact ⟨_, rfl, rfl⟩
  | pair n first second =>
    have hside : segment.component? = none := by
      cases hside : segment.component? with
      | none => rfl
      | some side => simp [stepInto, hside] at h
    simp only [generateAt, hside]
    exact ⟨_, rfl, rfl⟩
  | vector n length element =>
    cases segment with
    | index i => exact absurd rfl (hindex n length element rfl i)
    | other x => cases hplain
    | field name => exact ⟨_, rfl, rfl⟩

/-! ## Items by their index -/

/-- A sequence can be gone through. -/
theorem items?_of_isSequence {v : Value} {items : List Value} (hv : v.IsSequence items) :
    v.items? = some items := by
  cases hv with
  | tuple => rfl
  | list => rfl

/-- There is no item beyond the last, nor before the first counted from the back. -/
theorem itemAt_outside {v : Value} {items : List Value} {i : Int} (hv : v.IsSequence items)
    (hi : i < -items.length ∨ items.length ≤ i) :
    itemAt v (some i) = .error (.intrinsic .index) := by
  rcases hi with hlow | hhigh
  · have hneg : i < 0 := by omega
    have hfront : ¬ 0 ≤ i + items.length := by omega
    simp only [itemAt, items?_of_isSequence hv, if_pos hneg, if_neg hfront]
  · have hneg : ¬ i < 0 := by omega
    have hfront : 0 ≤ i := by omega
    have hnone : items[i.toNat]? = none := List.getElem?_eq_none (by omega)
    simp only [itemAt, items?_of_isSequence hv, if_neg hneg, if_pos hfront, hnone]

/-- A negative index counts from the back. -/
theorem itemAt_back {v : Value} {items : List Value} {i : Int} (hv : v.IsSequence items)
    (hlow : -items.length ≤ i) (hi : i < 0) :
    itemAt v (some i) = itemAt v (some (items.length + i)) := by
  have hnonneg : ¬ (items.length + i : Int) < 0 := by omega
  have hplace : i + items.length = items.length + i := Int.add_comm _ _
  simp only [itemAt, items?_of_isSequence hv, if_pos hi, hplace, if_neg hnonneg]

/-- A vector whose value has no such item. -/
theorem raises_of_outside {n : Option String} {length : Nat} {element : Descriptor} {v : Value}
    {i : Int} (hv : (vector n length element).Admits v) (hi : i < -length ∨ length ≤ i)
    (path : Path) :
    (generateAt s (.index i :: path) (vector n length element) v).Raises "IndexError" := by
  cases hv with
  | vector hv hlength hitems =>
    rw [← hlength] at hi
    simp only [generateAt, Segment.integer?, Segment.toValue, Value.integer?,
      itemAt_outside hv hi]
    exact ⟨_, rfl, rfl⟩

/-- From the back of a vector the same item is redrawn as from its front. -/
theorem generateAt_back {n : Option String} {length : Nat} {element : Descriptor} {v : Value}
    {i : Int} (hv : (vector n length element).Admits v) (hlow : -length ≤ i) (hi : i < 0)
    (path : Path) : generateAt s (.index i :: path) (vector n length element) v =
      generateAt s (.index (length + i) :: path) (vector n length element) v := by
  cases hv with
  | vector hv hlength hitems =>
    subst hlength
    simp only [generateAt, Segment.integer?, Segment.toValue, Value.integer?,
      itemAt_back hv hlow hi]

/-! ## Along whole paths -/

/-- Off the paths that stray, what `descriptorAt` refuses is refused by a
redraw with an error of the same kind. -/
theorem raises_of_descriptorAt {d : Descriptor} {v : Value} {path : Path} {error : Error}
    (hd : d.WellFormed) (hv : d.Admits v) (hplain : path.all Segment.isPlain)
    (hstrays : ¬ d.Strays path) (h : d.descriptorAt path = .error error) :
    (generateAt s path d v).Raises "KeyError" := by
  obtain ⟨before, segment, after, e, rfl, hbefore, hrefused⟩ := exists_refused_step h
  rw [List.all_append, List.all_cons, Bool.and_eq_true, Bool.and_eq_true] at hplain
  obtain ⟨w, rebuild, -, hw, hreached⟩ := exists_reached (s := s) before hd hplain.1 hbefore hv
  rw [hreached]
  refine (raises_of_stepInto hplain.2.1 hrefused hw ?_ after).bind _
  rintro n length element rfl i rfl
  refine hstrays ⟨before, i, after, length, rfl, n, element, hbefore, fun hi => ?_⟩
  cases (if_pos hi).symm.trans hrefused

/-- The paths of names and integers that a redraw accepts, for a value that
conforms and a descriptor without functions, provided that the draw is not
given up.

1. On a path that does not stray, the redraw yields a value exactly if there
   is a descriptor at the path; otherwise both look-ups fail with a `KeyError`.
2. On a path that strays, there is no descriptor: a `KeyError`.  The redraw
   fails with an `IndexError` if the index is beyond the length or below minus
   the length; any other negative index it counts from the back. -/
theorem generateAt_accepts (s : Sampling) {d : Descriptor} {v : Value} {path : Path}
    {source : Twister} (hd : d.WellFormed) (hf : ¬ d.HasFunction) (hv : d.validate v = none)
    (hplain : path.all Segment.isPlain)
    (hdraw : ((generateAt s path d v).runFrom source).1 ≠ .error .unfinished) :
    (¬ d.Strays path →
      (∃ e w after, d.descriptorAt path = .ok e ∧
        (generateAt s path d v).runFrom source = (.ok w, after)) ∨
      (∃ error error', d.descriptorAt path = .error error ∧ error.kind = "KeyError" ∧
        (generateAt s path d v).runFrom source = (.error (.of error'), source) ∧
        error'.kind = "KeyError")) ∧
    ∀ before i after length, path = before ++ .index i :: after → d.StraysAt before i length →
      (∃ error, d.descriptorAt path = .error error ∧ error.kind = "KeyError") ∧
      (i < -length ∨ length ≤ i → ∃ error,
        (generateAt s path d v).runFrom source = (.error (.of error), source) ∧
        error.kind = "IndexError") ∧
      (-length ≤ i → i < 0 → generateAt s path d v =
        generateAt s (before ++ .index (length + i) :: after) d v) := by
  have hadmits := admits_of_validate hv
  refine ⟨fun hstrays => ?_, ?_⟩
  · cases hat : d.descriptorAt path with
    | ok e =>
      have he : ¬ e.HasFunction := fun h => hf (hasFunction_of_descriptorAt path hplain hat h)
      obtain ⟨rebuild, hupdated⟩ := exists_updated (s := s) path hd hplain hat hadmits
      have hgives : (generateAt s path d v).OnlyGivesUp := by
        rw [hupdated.redraw, generate_eq_sample s he]
        exact (onlyGivesUp_sample s e).bind fun _ => Draw.onlyGivesUp_pure _
      rcases hgives.cases source with ⟨w, after, hw⟩ | ⟨after, hgiven⟩
      · exact .inl ⟨e, w, after, rfl, hw⟩
      · rw [hgiven] at hdraw
        exact absurd rfl hdraw
    | error error =>
      obtain ⟨error', hkind, hrun⟩ :=
        (raises_of_descriptorAt (s := s) hd hadmits hplain hstrays hat).runFrom source
      exact .inr ⟨error, error', rfl, kind_of_descriptorAt hat, hrun, hkind⟩
  · rintro before i after length rfl ⟨n, element, hbefore, hi⟩
    have hbeforePlain : before.all Segment.isPlain := by
      rw [List.all_append, Bool.and_eq_true] at hplain
      exact hplain.1
    obtain ⟨w, rebuild, -, hw, hreached⟩ := exists_reached (s := s) before hd hbeforePlain hbefore
      hadmits
    refine ⟨?_, fun houtside => ?_, fun hlow hneg => ?_⟩
    · have hrefused : stepInto (vector n length element) (.index i) = .error (.lookup _) :=
        if_neg hi
      rw [descriptorAt_append hbefore, descriptorAt, hrefused]
      exact ⟨_, rfl, rfl⟩
    · rw [hreached]
      obtain ⟨error, hkind, hrun⟩ :=
        ((raises_of_outside (s := s) hw houtside after).bind _).runFrom source
      exact ⟨error, hrun, hkind⟩
    · rw [hreached, hreached, generateAt_back hw hlow hneg]

/-- Three scores. -/
def scores : Descriptor := vector none 3 (ofInteger .uint8)

def givenScores : Value := .list [.int 1, .int 2, .int 3]

theorem wellFormed_scores : scores.WellFormed := by
  simp [scores, WellFormed, NameWellFormed, ofInteger, IntegerKind.low, IntegerKind.high]

theorem not_strays_scores : ¬ scores.Strays [.index 1] := by
  rintro ⟨before, i, after, length, hsplit, n, element, hbefore, hi⟩
  cases before with
  | nil =>
    obtain ⟨⟨⟩, -⟩ := List.cons.inj hsplit
    cases hbefore
    exact hi (by decide)
  | cons segment before => simp at hsplit

/-- The last of three scores, told from the back, is redrawn although the
descriptor has no such place. -/
theorem generateAt_accepts_scores :
    scores.WellFormed ∧ ¬ scores.HasFunction ∧ scores.validate givenScores = none ∧
      (∃ e w after, scores.descriptorAt [.index 1] = .ok e ∧
        (generateAt {} [.index 1] scores givenScores).runFrom zeros = (.ok w, after)) ∧
      (∃ error, scores.descriptorAt [.index (-1)] = .error error ∧ error.kind = "KeyError") ∧
      generateAt {} [.index (-1)] scores givenScores =
        generateAt {} [.index 2] scores givenScores := by
  have hf : ¬ scores.HasFunction := id
  have hv : scores.validate givenScores = none := rfl
  have hruns : ∀ i ∈ [1, (-1 : Int)],
      ((generateAt {} [.index i] scores givenScores).runFrom zeros).1.isOk = true := by
    decide +kernel
  have hdraw : ∀ i ∈ [1, (-1 : Int)],
      ((generateAt {} [.index i] scores givenScores).runFrom zeros).1 ≠ .error .unfinished := by
    intro i hi h
    have hok := hruns i hi
    rw [h] at hok
    cases hok
  obtain ⟨hagree, -⟩ := generateAt_accepts {} wellFormed_scores hf hv rfl (hdraw 1 (by simp))
  obtain ⟨-, hstray⟩ := generateAt_accepts {} wellFormed_scores hf hv rfl (hdraw (-1) (by simp))
  obtain ⟨hrefused, -, hback⟩ := hstray [] (-1) [] 3 rfl ⟨_, _, rfl, by decide⟩
  refine ⟨wellFormed_scores, hf, hv, ?_, hrefused, hback (by decide) (by decide)⟩
  rcases hagree not_strays_scores with hyields | ⟨error, -, hrefused, -⟩
  · exact hyields
  · cases hrefused

/-- The last score is redrawn at an index that no descriptor is at. -/
theorem generateAt_lastScore :
    scores.WellFormed ∧ ¬ scores.HasFunction ∧ scores.validate givenScores = none ∧
      (∃ error, scores.descriptorAt [.index (-1)] = .error error) ∧
      ∃ w after, (generateAt {} [.index (-1)] scores givenScores).runFrom zeros = (.ok w, after) := by
  refine ⟨wellFormed_scores, id, rfl, ⟨_, rfl⟩, ?_⟩
  have hok : ((generateAt {} [.index (-1)] scores givenScores).runFrom zeros).1.isOk = true := by
    decide +kernel
  rcases hrun : (generateAt {} [.index (-1)] scores givenScores).runFrom zeros with ⟨fault | w, after⟩
  · rw [hrun] at hok
    cases hok
  · exact ⟨w, after, rfl⟩

end Descriptor

end Conformance
