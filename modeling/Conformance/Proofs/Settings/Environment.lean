import Conformance.Proofs.Settings.Merge
import Conformance.Settings.Environment
import Mathlib.Data.List.Induction

/-!
# Conformance.Proofs.Settings.Environment

The environment laid over a file, field by field.

A variable sets a field of a section if its name says so (`Sets`): behind the
marker, in lower case, section and field stand before and behind the first
separator.  One step of `overrides` sets one field (`fieldIn?_overrides_concat`),
so at the end a field has the value of the last variable that sets it
(`fieldIn?_overrides_of_last`).  What a file has in other fields stays, and so
does every section that no variable names (`merge_overrides`).
-/

namespace Conformance.Environment

variable {env : Environment} {name section_ field : String} {cs front back : List Char}

/-! ## Names of variables -/

/-- A text is split at its first separator. -/
structure SplitsAt (cs front back : List Char) : Prop where
  parts : cs = front ++ separator.toList ++ back
  first : ∀ front' back', cs = front' ++ separator.toList ++ back' → front.length ≤ front'.length

theorem toList_separator : separator.toList = ['_', '_'] := rfl

/-- A separator that is not at the start of a text is one of its rest. -/
theorem splitsAt_cons {c : Char} (h : ∀ back', c :: cs ≠ separator.toList ++ back') :
    SplitsAt (c :: cs) front back ↔ ∃ front', front = c :: front' ∧ SplitsAt cs front' back := by
  constructor
  · intro hsplit
    have hparts := hsplit.parts
    cases front with
    | nil => exact absurd hparts (h back)
    | cons d front' =>
      obtain ⟨rfl, hrest⟩ := List.cons.inj hparts
      refine ⟨front', rfl, hrest, fun front'' back'' hother => ?_⟩
      have hfirst := hsplit.first (c :: front'') back'' (by rw [hother]; rfl)
      simpa using hfirst
  · rintro ⟨front', rfl, hsplit⟩
    refine ⟨by rw [hsplit.parts]; rfl, fun front'' back'' hother => ?_⟩
    cases front'' with
    | nil => exact absurd hother (h back'')
    | cons d front'' =>
      have hfirst := hsplit.first front'' back'' (List.cons.inj hother).2
      simpa using hfirst

/-- A name is split at its first separator, exactly where there is something behind it. -/
theorem splitFirst_eq_iff (hback : back ≠ []) :
    splitFirst cs = (front, back) ↔ SplitsAt cs front back := by
  fun_induction splitFirst cs generalizing front with
  | case1 rest =>
    constructor
    · intro h
      obtain ⟨rfl, rfl⟩ := Prod.mk.inj h
      exact ⟨rfl, fun _ _ _ => Nat.zero_le _⟩
    · intro h
      have hlength : front.length ≤ 0 := h.first [] rest rfl
      obtain rfl := List.eq_nil_of_length_eq_zero (Nat.le_zero.mp hlength)
      have hparts := h.parts
      simp_all [toList_separator]
  | case2 c rest hstart f b hrest ih =>
    have hno : ∀ back', c :: rest ≠ separator.toList ++ back' := by
      intro back' heq
      obtain ⟨rfl, rfl⟩ := List.cons.inj heq
      exact hstart back' rfl rfl
    rw [splitsAt_cons hno]
    simp only [← ih, hrest, Prod.mk.injEq]
    constructor
    · rintro ⟨rfl, rfl⟩
      exact ⟨f, rfl, rfl, rfl⟩
    · rintro ⟨front', rfl, rfl, rfl⟩
      exact ⟨rfl, rfl⟩
  | case3 =>
    refine iff_of_false (fun h => ?_) (fun h => ?_)
    · simp_all
    · have hparts := h.parts
      simp [toList_separator] at hparts

/-- A variable sets a field of a section. -/
def Sets (name section_ field : String) : Prop :=
  ∃ rest, name = marker ++ rest ∧
    SplitsAt (Text.lower rest).toList section_.toList field.toList ∧ section_ ≠ "" ∧ field ≠ ""

/-- Both parts have to be there. -/
theorem parts_eq_some_iff :
    (if (splitFirst cs).1.isEmpty || (splitFirst cs).2.isEmpty then none
      else some (String.ofList (splitFirst cs).1, String.ofList (splitFirst cs).2)) =
        some (section_, field) ↔
      SplitsAt cs section_.toList field.toList ∧ section_ ≠ "" ∧ field ≠ "" := by
  cases hsplit : splitFirst cs with
  | mk front back =>
    constructor
    · intro h
      split at h
      · cases h
      · next hne =>
        obtain ⟨rfl, rfl⟩ := Prod.mk.inj (Option.some.inj h)
        simp only [Bool.or_eq_true, List.isEmpty_iff, not_or] at hne
        simp only [String.toList_ofList]
        exact ⟨(splitFirst_eq_iff hne.2).mp hsplit, by simpa using hne.1, by simpa using hne.2⟩
    · intro ⟨h, hsection, hfield⟩
      have hback : field.toList ≠ [] := by simpa using hfield
      obtain ⟨rfl, rfl⟩ := Prod.mk.inj (hsplit.symm.trans ((splitFirst_eq_iff hback).mpr h))
      simp [hsection, hfield]

/-- A variable has the target that it sets. -/
theorem target?_eq_some_iff :
    target? name = some (section_, field) ↔ Sets name section_ field := by
  have hmarker : ∀ rest : List Char, marker.toList.isPrefixOf? name.toList = some rest ↔
      name = marker ++ String.ofList rest := by
    intro rest
    rw [List.isPrefixOf?_eq_some_iff_append_eq, ← String.toList_inj, String.toList_append,
      String.toList_ofList, eq_comm]
  unfold target? Sets
  simp only [Option.bind_eq_bind, Option.bind_eq_some_iff, hmarker, parts_eq_some_iff]
  constructor
  · intro ⟨rest, hname, h⟩
    exact ⟨String.ofList rest, hname, h⟩
  · intro ⟨rest, hname, h⟩
    exact ⟨rest.toList, by rwa [String.ofList_toList], by rwa [String.ofList_toList]⟩

instance (name section_ field : String) : Decidable (Sets name section_ field) :=
  decidable_of_iff _ target?_eq_some_iff

/-- A section of which a variable sets a field. -/
def Names (env : Environment) (section_ : String) : Prop :=
  ∃ v ∈ env, ∃ field, Sets v.1 section_ field

/-- A section is named if some variable has its target there. -/
theorem names_iff : Names env section_ ↔ ∃ v ∈ env, (target? v.1).map (·.1) = some section_ := by
  simp [Names, ← target?_eq_some_iff]

instance (env : Environment) (section_ : String) : Decidable (Names env section_) :=
  decidable_of_iff _ names_iff.symm

/-! ## What variables set -/

/-- The entry of one variable has its own field and no other. -/
theorem fieldIn?_fieldEntry (section_ field value section' field' : String) :
    Value.fieldIn? (fieldEntry section_ field value) section' field' =
      if section_ = section' ∧ field = field' then some (.str value) else none := by
  by_cases hsection : section_ = section' <;> by_cases hfield : field = field' <;>
    simp [Value.fieldIn?, fieldEntry, Value.lookupText, Value.same, hsection, hfield]

/-- The entry of one variable is a mapping with keys, two levels deep. -/
theorem keyed_fieldEntry (section_ field value : String) :
    Value.Keyed (.dict (fieldEntry section_ field value)) := by
  simp [fieldEntry, Value.Keyed, Value.KeyedEntries, Value.KeysDiffer, Value.isKey, Value.same]

/-- One more variable is laid over what the others came to. -/
theorem overrides_concat (env : Environment) (v : String × String) :
    overrides (env ++ [v]) =
      match target? v.1 with
      | some (section_, field) => Value.mergeEntries env.overrides (fieldEntry section_ field v.2)
      | none => env.overrides := by
  rw [overrides, List.foldl_append]
  rfl

/-- Whatever the environment, what it comes to is a mapping with keys. -/
theorem keyed_overrides (env : Environment) : Value.Keyed (.dict env.overrides) := by
  induction env using List.reverseRecOn with
  | nil => exact ⟨List.Pairwise.nil, trivial⟩
  | append_singleton env v ih =>
    rw [overrides_concat]
    split
    · exact Value.keyed_mergeEntries _ (keyed_fieldEntry _ _ _).2 _ ih
    · exact ih

/-- A section is named by the last variable or by one before it. -/
theorem names_concat {v : String × String} :
    Names (env ++ [v]) section_ ↔ Names env section_ ∨ ∃ field, Sets v.1 section_ field := by
  simp [Names, or_and_right, exists_or]

/-- One variable more: under its section stands what was there with one field
set, under all other keys what was there. -/
theorem lookup_overrides_concat (env : Environment) (v : String × String) (key : Value) :
    Value.lookup (overrides (env ++ [v])) key =
      match target? v.1 with
      | some (section_, field) =>
        if (Value.str section_).same key then
          some (Value.overlaid (Value.lookup (overrides env) key) (.dict [(.str field, .str v.2)]))
        else Value.lookup (overrides env) key
      | none => Value.lookup (overrides env) key := by
  rw [overrides_concat]
  cases target? v.1 with
  | none => rfl
  | some target =>
    have hkeyed := keyed_fieldEntry target.1 target.2 v.2
    simp only [Value.lookup_mergeEntries hkeyed.1 hkeyed.2]
    simp only [fieldEntry, Value.lookup_cons, Value.lookup_nil]
    by_cases hkey : (Value.str target.1).same key <;> simp [hkey]

/-- What stands in the overrides is a section with its fields. -/
theorem eq_of_lookup_overrides {key v : Value} (h : Value.lookup (overrides env) key = some v) :
    ∃ section_ inner, key = .str section_ ∧ Names env section_ ∧ v = .dict inner := by
  induction env using List.reverseRecOn generalizing v with
  | nil => cases h
  | append_singleton env last ih =>
    have hold : ∀ u, Value.lookup (overrides env) key = some u → ∃ section_ inner,
        key = .str section_ ∧ Names (env ++ [last]) section_ ∧ u = .dict inner := by
      intro u hu
      obtain ⟨section_, inner, hkey, hnames, hmapping⟩ := ih hu
      exact ⟨section_, inner, hkey, names_concat.mpr (.inl hnames), hmapping⟩
    rw [lookup_overrides_concat] at h
    cases htarget : target? last.1 with
    | none => exact hold v (by simpa only [htarget] using h)
    | some target =>
      simp only [htarget] at h
      by_cases hkey : (Value.str target.1).same key
      · rw [if_pos hkey] at h
        have hsets : Sets last.1 target.1 target.2 := target?_eq_some_iff.mp htarget
        have hnames : Names (env ++ [last]) target.1 := names_concat.mpr (.inr ⟨target.2, hsets⟩)
        obtain ⟨inner, hinner⟩ := Value.exists_overlaid_dict (Value.lookup (overrides env) key)
          [(.str target.2, .str last.2)]
        obtain rfl := Option.some.inj h
        exact ⟨target.1, inner, Value.str_same.mp hkey, hnames, hinner⟩
      · exact hold v (by rwa [if_neg hkey] at h)

/-- Every section that a variable names is there. -/
theorem exists_lookup_overrides (h : Names env section_) :
    ∃ v, Value.lookup (overrides env) (.str section_) = some v := by
  induction env using List.reverseRecOn with
  | nil => simp [Names] at h
  | append_singleton env last ih =>
    rw [lookup_overrides_concat]
    cases htarget : target? last.1 with
    | none =>
      have hnot : ¬ ∃ field, Sets last.1 section_ field := by
        simp [← target?_eq_some_iff, htarget]
      exact ih ((names_concat.mp h).resolve_right hnot)
    | some target =>
      by_cases hkey : (Value.str target.1).same (.str section_)
      · exact ⟨_, if_pos hkey⟩
      · have hnot : ¬ ∃ field, Sets last.1 section_ field := by
          intro ⟨field, hsets⟩
          rw [target?_eq_some_iff.mpr hsets] at htarget
          simp [← Option.some.inj htarget, Value.same] at hkey
        obtain ⟨v, hv⟩ := ih ((names_concat.mp h).resolve_right hnot)
        exact ⟨v, by simp only [if_neg hkey, hv]⟩

/-- Every section that the environment sets is a mapping. -/
theorem sectioned_overrides (env : Environment) : Value.Sectioned (overrides env) := by
  intro section_ v hv
  obtain ⟨-, inner, -, -, hmapping⟩ := eq_of_lookup_overrides hv
  exact ⟨inner, hmapping⟩

theorem sectioned_fieldEntry (section_ field value : String) :
    Value.Sectioned (fieldEntry section_ field value) := by
  intro section' v hv
  simp only [fieldEntry, Descriptor.lookupText_cons] at hv
  by_cases hsection : section_ = section'
  · rw [if_pos hsection] at hv
    exact ⟨_, (Option.some.inj hv).symm⟩
  · rw [if_neg hsection] at hv
    cases hv

/-- One variable more sets the field of its name and no other. -/
theorem fieldIn?_overrides_concat (env : Environment) (v : String × String)
    (section_ field : String) :
    Value.fieldIn? (overrides (env ++ [v])) section_ field =
      if Sets v.1 section_ field then some (.str v.2)
      else Value.fieldIn? (overrides env) section_ field := by
  simp only [overrides_concat, ← target?_eq_some_iff]
  cases target? v.1 with
  | none => simp
  | some target =>
    have hentry := Value.fieldIn?_mergeEntries (keyed_fieldEntry target.1 target.2 v.2)
      (sectioned_fieldEntry target.1 target.2 v.2) (overrides env) section_ field
    rw [fieldIn?_fieldEntry] at hentry
    simp only [hentry, Option.some.injEq, Prod.ext_iff]
    by_cases hsame : target.1 = section_ ∧ target.2 = field
    · simp only [if_pos hsame, Value.overlaid]
    · simp only [if_neg hsame]

/-- What no variable sets is not there. -/
theorem fieldIn?_overrides_of_unset (h : ∀ v ∈ env, ¬ Sets v.1 section_ field) :
    Value.fieldIn? (overrides env) section_ field = none := by
  induction env using List.reverseRecOn with
  | nil => rfl
  | append_singleton env last ih =>
    rw [fieldIn?_overrides_concat, if_neg (h last (by simp))]
    exact ih fun v hv => h v (List.mem_append_left _ hv)

/-- Of the variables that set a field the last one counts. -/
theorem fieldIn?_overrides_of_last {value : String} {before after : Environment}
    (hsets : Sets name section_ field) (hlast : ∀ v ∈ after, ¬ Sets v.1 section_ field) :
    Value.fieldIn? (overrides (before ++ (name, value) :: after)) section_ field =
      some (.str value) := by
  induction after using List.reverseRecOn with
  | nil => rw [fieldIn?_overrides_concat, if_pos hsets]
  | append_singleton after v ih =>
    have hv : ¬ Sets v.1 section_ field := hlast v (by simp)
    rw [← List.cons_append, ← List.append_assoc, fieldIn?_overrides_concat, if_neg hv]
    exact ih fun w hw => hlast w (List.mem_append_left _ hw)

/-! ## The environment over a file -/

/-- What `merged` has where the environment is laid over `raw`. -/
structure LaidOver (env : Environment) (raw merged : List (Value × Value)) : Prop where
  /-- A field that variables set has the value of the last of them. -/
  set : ∀ before name value after section_ field, env = before ++ (name, value) :: after →
    Sets name section_ field → (∀ v ∈ after, ¬ Sets v.1 section_ field) →
    Value.fieldIn? merged section_ field = some (.str value)
  /-- Any other field is as below: it has the value there, or is absent. -/
  unset : ∀ section_ field, (∀ v ∈ env, ¬ Sets v.1 section_ field) →
    Value.fieldIn? merged section_ field = Value.fieldIn? raw section_ field
  /-- A section that a variable names is a mapping, whatever it was. -/
  named : ∀ section_, Names env section_ →
    ∃ fields, Value.lookupText merged section_ = some (.dict fields)
  /-- Under every other key stands what stood there. -/
  unnamed : ∀ key, (∀ section_, Names env section_ → key ≠ .str section_) →
    Value.lookup merged key = Value.lookup raw key
  /-- To lay the environment over it once more changes nothing. -/
  again : (Value.dict merged).merge (.dict (overrides env)) = .ok (.dict merged)

/-- The merge of a file and an environment is the environment laid over the file. -/
theorem laidOver_mergeEntries (env : Environment) (raw : List (Value × Value)) :
    LaidOver env raw (Value.mergeEntries raw (overrides env)) := by
  have hkeyed := keyed_overrides env
  have hentry := Value.fieldIn?_mergeEntries hkeyed (sectioned_overrides env) raw
  have hlookup := Value.lookup_mergeEntries hkeyed.1 hkeyed.2 raw
  constructor
  case set =>
    intro before name value after section_ field henv hsets hlast
    rw [hentry, henv, fieldIn?_overrides_of_last hsets hlast]
    rfl
  case unset =>
    intro section_ field hnone
    rw [hentry, fieldIn?_overrides_of_unset hnone]
  case named =>
    intro section_ hnames
    obtain ⟨v, hv⟩ := exists_lookup_overrides hnames
    obtain ⟨inner, rfl⟩ := sectioned_overrides env section_ v hv
    obtain ⟨fields, hfields⟩ := Value.exists_overlaid_dict (Value.lookup raw (.str section_)) inner
    exact ⟨fields, by simp only [Value.lookupText, hlookup, hv, hfields]⟩
  case unnamed =>
    intro key hother
    rw [hlookup]
    cases hover : Value.lookup (overrides env) key with
    | none => rfl
    | some v =>
      obtain ⟨section_, -, hkey, hnames, -⟩ := eq_of_lookup_overrides hover
      exact absurd hkey (hother section_ hnames)
  case again => rw [Value.merge_dict, Value.mergeEntries_idem hkeyed]

/-- The environment goes over a file field by field, and doing so again changes
nothing.  Nor does it for any two mappings, at any depth and with the order of
the keys.  Keys that differ from themselves are left out of that: the upper
mapping must hold no `nan` as a key (`Value.Keyed`). -/
theorem merge_overrides (env : Environment) (raw : List (Value × Value)) :
    (∃ merged, (Value.dict raw).merge (.dict (overrides env)) = .ok (.dict merged) ∧
      LaidOver env raw merged) ∧
    ∀ bs es, Value.Keyed (.dict es) → ∃ merged, (Value.dict bs).merge (.dict es) = .ok merged ∧
      merged.merge (.dict es) = .ok merged := by
  refine ⟨⟨_, Value.merge_dict _ _, laidOver_mergeEntries env raw⟩, fun bs es hkeyed => ?_⟩
  exact ⟨_, Value.merge_dict _ _, by rw [Value.merge_dict, Value.mergeEntries_idem hkeyed]⟩

/-- Two variables of one field, over a section that is a mapping, one that is
nothing and one that no variable names. -/
theorem merge_overrides_three :
    let raw : List (Value × Value) :=
      [(.str "checking", .dict [(.str "seed", .int 7), (.str "default_trials", .int 25)]),
        (.str "logging", .nothing), (.str "generator", .dict [(.str "number_max", .int 3)])]
    let env : Environment := [("CONFORMOS_CHECKING__SEED", "1"), ("CONFORMOS_checking__Seed", "2"),
      ("CONFORMOS_LOGGING___FORMAT", "json")]
    ∃ merged, (Value.dict raw).merge (.dict (overrides env)) = .ok (.dict merged) ∧
      Value.fieldIn? merged "checking" "seed" = some (.str "2") ∧
      Value.fieldIn? merged "checking" "default_trials" = some (.int 25) ∧
      (∃ fields, Value.lookupText merged "logging" = some (.dict fields)) ∧
      Value.lookup merged (.str "generator") = some (.dict [(.str "number_max", .int 3)]) ∧
      ∃ again, (Value.dict raw).merge (.dict raw) = .ok again ∧
        again.merge (.dict raw) = .ok again := by
  intro raw env
  obtain ⟨⟨merged, hmerged, hover⟩, hidem⟩ := merge_overrides env raw
  refine ⟨merged, hmerged, ?_, ?_, hover.named "logging" (by decide), ?_, hidem raw raw ?_⟩
  · exact hover.set [("CONFORMOS_CHECKING__SEED", "1")] _ _ _ _ _ rfl (by decide) (by decide)
  · rw [hover.unset _ _ (by decide)]
    simp [Value.fieldIn?, Value.lookupText, Value.same, raw]
  · have hunnamed : ∀ section_, Names env section_ → Value.str "generator" ≠ .str section_ := by
      intro section_ hnames hkey
      obtain rfl := Value.str.inj hkey
      exact absurd hnames (by decide)
    rw [hover.unnamed _ hunnamed]
    simp [Value.same, raw]
  · simp [raw, Value.Keyed, Value.KeyedEntries, Value.KeysDiffer, Value.isKey, Value.same]

end Conformance.Environment
