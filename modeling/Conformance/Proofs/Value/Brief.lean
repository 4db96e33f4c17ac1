import Conformance.Value.Brief

/-!
# Conformance.Proofs.Value.Brief

How long a brief text is at most.

`Limits.bound` is a length that no value exceeds at a depth, however large
it is (`length_briefAt_le`).  Text that is cut keeps as many characters as
its limit allows, a container as many parts; what the parts come to is
bounded at the depth below.
-/

namespace Conformance.Value

/-- A length that no value exceeds at a depth. -/
def Limits.bound (l : Limits) : (level : Nat) → Nat
  | 0 => l.string + l.long + l.other + 5
  | level + 1 => l.string + l.long + l.other + 5 +
      (l.tuple + l.list + l.dict + 1) * (2 * bound l level + 4)

/-! ## Texts that are cut -/

namespace Brief

/-- What is kept of both ends, with the gap, exceeds the limit by three at most. -/
theorem front_add_back_le (limit : Nat) : front limit + gap.length + back limit ≤ limit + 3 := by
  have hgap : gap.length = 3 := by decide
  unfold back front
  omega

/-- The two ends of a text with a gap between them. -/
theorem length_cut_le (limit : Nat) (cs : List Char) :
    (String.ofList (cs.take (front limit)) ++ gap ++
      String.ofList (cs.drop (cs.length - back limit))).length ≤ limit + 3 := by
  simp only [String.length_append, String.length_ofList, List.length_take, List.length_drop]
  have h := front_add_back_le limit
  omega

/-- A text that is cut in the middle exceeds the limit by three at most. -/
theorem length_ends_le (limit : Nat) (s : String) : (ends limit s).length ≤ limit + 3 := by
  unfold ends
  simp only
  split
  · next h =>
    rw [String.length_toList] at h
    omega
  · exact length_cut_le limit _

/-- Quoted first and then cut, it is no longer. -/
theorem length_text_le (limit : Nat) (s : String) : (text limit s).length ≤ limit + 3 := by
  unfold text
  simp only
  split
  · omega
  · simpa using length_cut_le limit _

end Brief

/-! ## Texts of parts -/

/-- Text between an opening and a closing bracket. -/
theorem length_between_le {opening closing : String} (s : String) (ho : opening.length = 1)
    (hc : closing.length = 1) : (opening ++ s ++ closing).length ≤ s.length + 2 := by
  rw [String.length_append, String.length_append]
  omega

/-- Texts of at most `m` characters each, a comma and a space behind every one of them. -/
theorem length_intercalate_le {m : Nat} {texts : List String} (h : ∀ t ∈ texts, t.length ≤ m) :
    (", ".intercalate texts).length ≤ texts.length * (m + 2) := by
  have hcomma : (", " : String).length = 2 := by decide
  induction texts with
  | nil => simp
  | cons t texts ih =>
    obtain ⟨ht, htexts⟩ := List.forall_mem_cons.mp h
    specialize ih htexts
    cases texts with
    | nil =>
      rw [String.intercalate_singleton, List.length_singleton]
      omega
    | cons u texts =>
      rw [String.intercalate_cons_cons, String.length_append, String.length_append, hcomma,
        List.length_cons, Nat.succ_mul]
      omega

/-- A tuple of short texts is as long as they are, with separators and brackets. -/
theorem length_tupleText_le {m : Nat} {texts : List String} (h : ∀ t ∈ texts, t.length ≤ m) :
    (tupleText texts).length ≤ texts.length * (m + 2) + 3 := by
  have hall := length_intercalate_le h
  unfold tupleText
  split
  · next t =>
    rw [String.intercalate_singleton] at hall
    simp only [String.length_append]
    have hparens : ("(" : String).length = 1 ∧ (",)" : String).length = 2 := by decide
    omega
  · simp only [String.length_append]
    have hparens : ("(" : String).length = 1 ∧ (")" : String).length = 1 := by decide
    omega

namespace Brief

/-- Of the texts of parts no more than the limit are kept, and a gap. -/
theorem length_capped_le (limit count : Nat) (texts : List String) :
    (capped limit count texts).length ≤ limit + 1 := by
  unfold capped
  split
  · simp only [List.length_append, List.length_take, List.length_singleton]
    omega
  · rw [List.length_take]
    omega

/-- To cut a list off adds only a short text for what is left out. -/
theorem forall_mem_capped {m : Nat} (limit count : Nat) {texts : List String} (hm : 3 ≤ m)
    (h : ∀ t ∈ texts, t.length ≤ m) : ∀ t ∈ capped limit count texts, t.length ≤ m := by
  intro t ht
  have hgap : gap.length = 3 := by decide
  unfold capped at ht
  split at ht
  · rcases List.mem_append.mp ht with ht | ht
    · exact h t (List.mem_of_mem_take ht)
    · obtain rfl := List.mem_singleton.mp ht
      omega
  · exact h t (List.mem_of_mem_take ht)

/-- What stands for a container below the last level is short. -/
theorem length_closed_le (count : Nat) : (closed count).length ≤ 3 := by
  unfold closed
  split
  · exact Nat.zero_le _
  · exact Nat.le_of_eq (by decide)

end Brief

/-! ## Sorting -/

section

variable {α : Type} {key : α → Value} {a b : α} {as bs : List α}

/-- To sort an item in adds that item alone. -/
theorem mem_of_mem_insertSorted {cs : List α} (h : insertSorted key a bs = some cs)
    (hb : b ∈ cs) : b = a ∨ b ∈ bs := by
  induction bs generalizing cs with
  | nil =>
    obtain rfl := Option.some.inj h
    exact .inl (List.mem_singleton.mp hb)
  | cons c bs ih =>
    simp only [insertSorted, Option.bind_eq_bind, Option.bind_eq_some_iff] at h
    obtain ⟨relation, -, h⟩ := h
    split at h
    · obtain rfl := Option.some.inj h
      exact List.mem_cons.mp hb
    · obtain ⟨ds, hds, rfl⟩ := Option.map_eq_some_iff.mp h
      rcases List.mem_cons.mp hb with rfl | hb
      · exact .inr List.mem_cons_self
      · exact (ih hds hb).imp_right (List.mem_cons_of_mem c)

/-- Sorting adds nothing. -/
theorem mem_of_mem_sortedBy? (h : sortedBy? key as = some bs) (hb : b ∈ bs) : b ∈ as := by
  have hfold : ∀ (as start bs : List α),
      as.foldlM (fun bs a => insertSorted key a bs) start = some bs →
      ∀ b ∈ bs, b ∈ start ∨ b ∈ as := by
    intro as
    induction as with
    | nil =>
      intro start bs h b hb
      obtain rfl := Option.some.inj h
      exact .inl hb
    | cons a as ih =>
      intro start bs h b hb
      rw [List.foldlM_cons, Option.bind_eq_bind, Option.bind_eq_some_iff] at h
      obtain ⟨cs, hcs, h⟩ := h
      rcases ih cs bs h b hb with hb | hb
      · rcases mem_of_mem_insertSorted hcs hb with rfl | hb
        · exact .inr List.mem_cons_self
        · exact .inl hb
      · exact .inr (List.mem_cons_of_mem a hb)
  exact (hfold as [] bs h b hb).resolve_left List.not_mem_nil

end

/-- However entries are arranged, their texts stay the same. -/
theorem exists_of_mem_arranged {entries : List (Value × String)} {t : String}
    (h : t ∈ Brief.arranged entries) : ∃ e ∈ entries, e.2 = t := by
  obtain ⟨e, he, rfl⟩ := List.mem_map.mp h
  refine ⟨e, ?_, rfl⟩
  cases hsorted : sortedBy? (·.1) entries with
  | none => simpa [hsorted] using he
  | some sorted =>
    rw [hsorted, Option.getD_some] at he
    exact mem_of_mem_sortedBy? hsorted he

/-! ## Values -/

/-- The parts of a container that are shown. -/
theorem length_capped_intercalate_le {m : Nat} (limit count : Nat) {texts : List String}
    (hm : 3 ≤ m) (h : ∀ t ∈ texts, t.length ≤ m) :
    (", ".intercalate (Brief.capped limit count texts)).length ≤ (limit + 1) * (m + 2) :=
  Nat.le_trans (length_intercalate_le (Brief.forall_mem_capped limit count hm h))
    (Nat.mul_le_mul_right _ (Brief.length_capped_le limit count texts))

section

variable (l : Limits)

/-- A level has room for what is no container. -/
theorem scalars_le_bound (level : Nat) : l.string + l.long + l.other + 5 ≤ l.bound level := by
  cases level with
  | zero => exact Nat.le_refl _
  | succ level => exact Nat.le_add_right _ _

/-- What a container shows at a depth is within the bound there. -/
theorem parts_le_bound {m n : Nat} (limit level : Nat) (hlimit : limit ≤ l.tuple + l.list + l.dict)
    (hm : m ≤ 2 * l.bound level + 2) (h : n ≤ (limit + 1) * (m + 2) + 5) :
    n ≤ l.bound (level + 1) := by
  have hparts : (limit + 1) * (m + 2) ≤
      (l.tuple + l.list + l.dict + 1) * (2 * l.bound level + 4) :=
    Nat.mul_le_mul (by omega) (by omega)
  rw [Limits.bound]
  omega

mutual
/-- No value exceeds the bound of the depth it is shown at. -/
theorem length_briefAt_le : (level : Nat) → (v : Value) → (briefAt l level v).length ≤ l.bound level
  | level, str s => by
      have htext := Brief.length_text_le l.string s
      have hbound := scalars_le_bound l level
      rw [briefAt]
      omega
  | level, int i => by
      have htext := Brief.length_ends_le l.long (toString i)
      have hbound := scalars_le_bound l level
      rw [briefAt]
      omega
  | level, nothing | level, bool _ | level, float _ | level, bytes _ | level, just _
  | level, missing | level, descriptor _ | level, function _ => by
      have hbound := scalars_le_bound l level
      simp only [briefAt]
      exact Nat.le_trans (Brief.length_ends_le l.other _) (by omega)
  | 0, list items | 0, tuple items | 0, dict items => by
      have htext := Brief.length_closed_le items.length
      simp only [briefAt, Limits.bound]
      exact Nat.le_trans (length_between_le _ (by decide) (by decide)) (by omega)
  | level + 1, list items => by
      have hitems := length_briefItems_le level items
      have hbound := scalars_le_bound l level
      have hparts := length_capped_intercalate_le l.list items.length (by omega) hitems
      refine parts_le_bound l l.list level (m := l.bound level) (by omega) (by omega) ?_
      rw [briefAt]
      exact Nat.le_trans (length_between_le _ (by decide) (by decide)) (by omega)
  | level + 1, tuple items => by
      have hitems := length_briefItems_le level items
      have hbound := scalars_le_bound l level
      have hparts := length_tupleText_le
        (Brief.forall_mem_capped l.tuple items.length (by omega) hitems)
      have hcount := Nat.mul_le_mul_right (l.bound level + 2)
        (Brief.length_capped_le l.tuple items.length (briefItems l level items))
      refine parts_le_bound l l.tuple level (m := l.bound level) (by omega) (by omega) ?_
      rw [briefAt]
      omega
  | level + 1, dict entries => by
      have hentries := length_briefEntries_le level entries
      have hbound := scalars_le_bound l level
      have harranged : ∀ t ∈ Brief.arranged (briefEntries l level entries),
          t.length ≤ 2 * l.bound level + 2 := by
        intro t ht
        obtain ⟨e, he, rfl⟩ := exists_of_mem_arranged ht
        exact hentries e he
      have hparts := length_capped_intercalate_le l.dict entries.length (by omega)
        harranged
      refine parts_le_bound l l.dict level (by omega) (Nat.le_refl _) ?_
      rw [briefAt]
      exact Nat.le_trans (length_between_le _ (by decide) (by decide)) (by omega)

/-- Every item is within the bound of its level. -/
theorem length_briefItems_le : (level : Nat) → (items : List Value) →
    ∀ t ∈ briefItems l level items, t.length ≤ l.bound level
  | _, [] => by simp [briefItems]
  | level, v :: items => by
      rw [briefItems]
      exact List.forall_mem_cons.mpr ⟨length_briefAt_le level v, length_briefItems_le level items⟩

/-- Every entry is within twice the bound, for a key and a value. -/
theorem length_briefEntries_le : (level : Nat) → (entries : List (Value × Value)) →
    ∀ e ∈ briefEntries l level entries, e.2.length ≤ 2 * l.bound level + 2
  | _, [] => by simp [briefEntries]
  | level, (k, v) :: entries => by
      have hkey := length_briefAt_le level k
      have hvalue := length_briefAt_le level v
      rw [briefEntries]
      refine List.forall_mem_cons.mpr ⟨?_, length_briefEntries_le level entries⟩
      have hcolon : (": " : String).length = 2 := by decide
      simp only [String.length_append]
      omega
end

end

/-- A value that a failure message quotes takes no more room than this. -/
theorem length_brief_le (v : Value) : v.brief.length ≤ messageLimits.bound messageLimits.level :=
  length_briefAt_le messageLimits messageLimits.level v

end Conformance.Value
