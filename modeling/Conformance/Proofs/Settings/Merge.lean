import Conformance.Proofs.Validate.Arrangement
import Conformance.Proofs.Value.Same
import Conformance.Settings.Merge

/-!
# Conformance.Proofs.Settings.Merge

Mappings laid over each other, key by key.

What stands under a key after a merge is what the upper mapping has there,
laid over what the lower one has (`lookup_mergeEntries`).  So a mapping that
already has what another one would lay over it stays as it is
(`mergeEntries_of_covers`), and to lay the same over a mapping twice is to do
so once (`mergeEntries_idem`), the order of the keys included.

The keys of the upper mapping have to be keys of a mapping, at every depth
(`Keyed`).  A double that is not a number is none of them: values carry no
identity, and it is not the same as itself.
-/

namespace Conformance.Value

variable {k v key : Value} {bs es : List (Value × Value)}

/-! ## Entries -/

@[simp] theorem lookup_nil (key : Value) : lookup [] key = none := rfl

@[simp] theorem lookup_cons (e : Value × Value) (es : List (Value × Value)) (key : Value) :
    lookup (e :: es) key = if e.1.same key then some e.2 else lookup es key := by
  unfold lookup
  rw [List.find?_cons]
  by_cases h : e.1.same key <;> simp [h]

/-- An entry that is set is found under its key; nothing else changes. -/
theorem lookup_insert (hk : k.isKey) (v : Value) (es : List (Value × Value)) (key : Value) :
    lookup (insert k v es) key = if k.same key then some v else lookup es key := by
  induction es with
  | nil => simp [insert]
  | cons e es ih =>
    rw [insert]
    by_cases hsame : e.1.same k
    · -- the key that is there and the one that is set are found by the same keys
      have hfound : e.1.same key = k.same key := by
        have hback : k.same e.1 = true := by rw [same_comm k hk, hsame]
        rw [Bool.eq_iff_iff]
        exact ⟨fun h => same_trans e.1 (isKey_of_same k hk e.1 hback) k key hback h,
          fun h => same_trans k hk e.1 key hsame h⟩
      rw [if_pos hsame, lookup_cons, lookup_cons, hfound]
      by_cases hkey : k.same key <;> simp [hkey]
    · rw [if_neg hsame, lookup_cons, lookup_cons, ih]
      by_cases hkey : k.same key
      · have hother : ¬ e.1.same key = true := by
          rw [← same_congr hk hkey]
          exact hsame
        simp [hkey, hother]
      · simp [hkey]

/-- To set what is there already changes nothing. -/
theorem insert_of_lookup (h : lookup es k = some v) : insert k v es = es := by
  induction es with
  | nil => simp at h
  | cons e es ih =>
    rw [lookup_cons] at h
    rw [insert]
    by_cases hsame : e.1.same k
    · rw [if_pos hsame] at h ⊢
      obtain rfl := Option.some.inj h
      rfl
    · rw [if_neg hsame] at h ⊢
      rw [ih h]

/-- The same key finds the same. -/
theorem lookup_congr (hk : k.isKey) (h : k.same key = true) (es : List (Value × Value)) :
    lookup es k = lookup es key := by
  induction es with
  | nil => rfl
  | cons e es ih => rw [lookup_cons, lookup_cons, same_congr hk h, ih]

/-! ## Mappings with keys -/

mutual
/-- The keys of a mapping can be keys, are the same as themselves and differ
from each other; so it is for the mappings under its keys.  A `nan` is no such
key, alone or inside a tuple, since it differs from itself. -/
def Keyed : Value → Prop
  | dict es => KeysDiffer es ∧ KeyedEntries es
  | _ => True
/-- The keys of entries can be keys and are the same as themselves; the
mappings under them have keys. -/
def KeyedEntries : List (Value × Value) → Prop
  | [] => True
  | (k, v) :: es => (k.isKey ∧ k.same k = true) ∧ Keyed v ∧ KeyedEntries es
end

/-- Beside keys that all differ from it, nothing is found. -/
theorem lookup_eq_none_of_differ (hk : k.isKey) (hkey : k.same key = true)
    (h : ∀ e ∈ es, k.same e.1 = false) : lookup es key = none := by
  induction es with
  | nil => rfl
  | cons e es ih =>
    have hhead := h e List.mem_cons_self
    rw [same_comm k hk, same_congr hk hkey] at hhead
    rw [lookup_cons, hhead, ih fun f hf => h f (List.mem_cons_of_mem e hf)]
    rfl

/-- What stands under a key after a merge. -/
theorem lookup_mergeEntries (hdiffer : KeysDiffer es) (hkeyed : KeyedEntries es)
    (bs : List (Value × Value)) (key : Value) :
    lookup (mergeEntries bs es) key =
      match lookup es key with
      | some v => some (overlaid (lookup bs key) v)
      | none => lookup bs key := by
  induction es generalizing bs with
  | nil => rw [mergeEntries, lookup_nil]
  | cons e es ih =>
    obtain ⟨k, v⟩ := e
    obtain ⟨hhead, htail⟩ := List.pairwise_cons.mp hdiffer
    obtain ⟨⟨hk, -⟩, -, hrest⟩ := hkeyed
    rw [mergeEntries, ih htail hrest, lookup_insert hk, lookup_cons]
    by_cases hkey : k.same key
    · rw [if_pos hkey, if_pos hkey, lookup_eq_none_of_differ hk hkey hhead, lookup_congr hk hkey]
    · rw [if_neg hkey, if_neg hkey]

/-! ## The same laid over twice -/

/-- Each entry has a key that can be one, and so it is for the mapping under it. -/
theorem keyed_of_mem {e : Value × Value} (h : KeyedEntries es) (he : e ∈ es) :
    (e.1.isKey ∧ e.1.same e.1 = true) ∧ Keyed e.2 := by
  induction es with
  | nil => cases he
  | cons f es ih =>
    obtain ⟨hkey, hvalue, hrest⟩ := h
    cases List.mem_cons.mp he with
    | inl heq => exact heq ▸ ⟨hkey, hvalue⟩
    | inr htail => exact ih hrest htail

/-- An entry is what is found under its key. -/
theorem lookup_of_mem {e : Value × Value} (hdiffer : KeysDiffer es) (hkeyed : KeyedEntries es)
    (he : e ∈ es) : lookup es e.1 = some e.2 := by
  induction es with
  | nil => cases he
  | cons f es ih =>
    obtain ⟨hhead, htail⟩ := List.pairwise_cons.mp hdiffer
    cases List.mem_cons.mp he with
    | inl heq =>
      have hself := (keyed_of_mem hkeyed he).1.2
      rw [lookup_cons, ← heq, if_pos hself]
    | inr hin =>
      rw [lookup_cons, hhead e hin, ih htail hkeyed.2.2 hin]
      rfl

/-- What stands under a key after a merge, for an entry of the upper mapping. -/
theorem lookup_mergeEntries_of_mem {e : Value × Value} (hdiffer : KeysDiffer es)
    (hkeyed : KeyedEntries es) (he : e ∈ es) (bs : List (Value × Value)) :
    lookup (mergeEntries bs es) e.1 = some (overlaid (lookup bs e.1) e.2) := by
  rw [lookup_mergeEntries hdiffer hkeyed, lookup_of_mem hdiffer hkeyed he]

/-- A mapping has already what another one would lay over it. -/
def Covers (bs es : List (Value × Value)) : Prop :=
  ∀ e ∈ es, ∃ u, lookup bs e.1 = some u ∧ overlaid (some u) e.2 = u

/-- To lay over a mapping what it has already leaves it as it is. -/
theorem mergeEntries_of_covers (h : Covers bs es) : mergeEntries bs es = bs := by
  induction es with
  | nil => rw [mergeEntries]
  | cons e es ih =>
    obtain ⟨u, hu, hover⟩ := h e List.mem_cons_self
    have hset : insert e.1 (overlaid (lookup bs e.1) e.2) bs = bs := by
      rw [hu, hover]
      exact insert_of_lookup hu
    rw [mergeEntries, hset]
    exact ih fun f hf => h f (List.mem_cons_of_mem e hf)

/-- It does not matter whether a value is laid over something once or twice. -/
def Settles (v : Value) : Prop :=
  ∀ lower, overlaid (some (overlaid lower v)) v = overlaid lower v

/-- After a merge the mapping has what was laid over it, if each value settles. -/
theorem covers_mergeEntries (hdiffer : KeysDiffer es) (hkeyed : KeyedEntries es)
    (h : ∀ e ∈ es, Settles e.2) (bs : List (Value × Value)) : Covers (mergeEntries bs es) es :=
  fun e he =>
    ⟨overlaid (lookup bs e.1) e.2, lookup_mergeEntries_of_mem hdiffer hkeyed he bs, h e he _⟩

@[simp] theorem overlaid_none (v : Value) : overlaid none v = v := by
  cases v <;> simp only [overlaid]

/-- A mapping is merged with a mapping and replaces anything else. -/
theorem overlaid_dict_cases (lower : Option Value) (es : List (Value × Value)) :
    (∃ bs, lower = some (dict bs) ∧ overlaid lower (dict es) = dict (mergeEntries bs es)) ∨
      overlaid lower (dict es) = dict es := by
  cases lower with
  | none => exact .inr (overlaid_none _)
  | some u =>
    cases u with
    | dict bs => exact .inl ⟨bs, rfl, by rw [overlaid]⟩
    | _ => exact .inr (by simp only [overlaid])

/-- A mapping laid over anything is a mapping. -/
theorem exists_overlaid_dict (lower : Option Value) (es : List (Value × Value)) :
    ∃ inner, overlaid lower (dict es) = dict inner := by
  cases overlaid_dict_cases lower es with
  | inl hmerged =>
    obtain ⟨bs, -, hover⟩ := hmerged
    exact ⟨mergeEntries bs es, hover⟩
  | inr hreplaced => exact ⟨es, hreplaced⟩

/-- A mapping has already what it would lay over itself. -/
theorem covers_self (hdiffer : KeysDiffer es) (hkeyed : KeyedEntries es)
    (h : ∀ e ∈ es, Settles e.2) : Covers es es := by
  intro e he
  have hsettled := h e he none
  rw [overlaid_none] at hsettled
  exact ⟨e.2, lookup_of_mem hdiffer hkeyed he, hsettled⟩

mutual
/-- A value whose mappings have keys settles. -/
theorem settles : (v : Value) → Keyed v → Settles v
  | dict es, ⟨hdiffer, hkeyed⟩, lower => by
      have hsettles := settles_of_mem es hkeyed
      cases overlaid_dict_cases lower es with
      | inl hmerged =>
        obtain ⟨bs, -, hover⟩ := hmerged
        have hcovers := covers_mergeEntries hdiffer hkeyed hsettles bs
        rw [hover, overlaid, mergeEntries_of_covers hcovers]
      | inr hreplaced =>
        have hcovers := covers_self hdiffer hkeyed hsettles
        rw [hreplaced, overlaid, mergeEntries_of_covers hcovers]
  | bool _, _, _ | int _, _, _ | float _, _, _ | nothing, _, _ | missing, _, _ | str _, _, _
  | bytes _, _, _ | function _, _, _ | descriptor _, _, _ | just _, _, _ | list _, _, _
  | tuple _, _, _ => by simp only [overlaid]

theorem settles_of_mem : (es : List (Value × Value)) → KeyedEntries es → ∀ e ∈ es, Settles e.2
  | [], _, e, he => by cases he
  | (k, v) :: es, ⟨_, hv, hes⟩, e, he => by
      cases List.mem_cons.mp he with
      | inl heq => exact heq ▸ settles v hv
      | inr htail => exact settles_of_mem es hes e htail
end

/-- To lay the same mapping over another one twice is to do so once. -/
theorem mergeEntries_idem (h : Keyed (dict es)) (bs : List (Value × Value)) :
    mergeEntries (mergeEntries bs es) es = mergeEntries bs es :=
  mergeEntries_of_covers (covers_mergeEntries h.1 h.2 (settles_of_mem es h.2) bs)

/-! ## Merges of mappings with keys -/

/-- What is found in such entries has keys itself. -/
theorem keyed_of_lookup (h : KeyedEntries es) (hv : lookup es key = some v) : Keyed v := by
  obtain ⟨e, he, rfl⟩ := Option.map_eq_some_iff.mp hv
  exact (keyed_of_mem h (List.mem_of_find?_eq_some he)).2

/-- One more entry with a key keeps them so. -/
theorem keyedEntries_insert (h : KeyedEntries es) (hk : k.isKey ∧ k.same k = true)
    (hv : Keyed v) : KeyedEntries (insert k v es) := by
  induction es with
  | nil => exact ⟨hk, hv, h⟩
  | cons e es ih =>
    obtain ⟨hkey, hvalue, hrest⟩ := h
    rw [insert]
    by_cases hsame : e.1.same k
    · rw [if_pos hsame]
      exact ⟨hkey, hv, hrest⟩
    · rw [if_neg hsame]
      exact ⟨hkey, hvalue, ih hrest⟩

mutual
/-- What is laid over a mapping with keys keeps them. -/
theorem keyed_overlaid : (v : Value) → Keyed v → (lower : Option Value) →
    (∀ u, lower = some u → Keyed u) → Keyed (overlaid lower v)
  | dict es, hes, lower, hlower => by
      cases overlaid_dict_cases lower es with
      | inl hmerged =>
        obtain ⟨bs, rfl, hover⟩ := hmerged
        rw [hover]
        exact keyed_mergeEntries es hes.2 bs (hlower _ rfl)
      | inr hreplaced => rwa [hreplaced]
  | bool _, _, _, _ | int _, _, _, _ | float _, _, _, _ | nothing, _, _, _ | missing, _, _, _
  | str _, _, _, _ | bytes _, _, _, _ | function _, _, _, _ | descriptor _, _, _, _
  | just _, _, _, _ | list _, _, _, _ | tuple _, _, _, _ => by simp only [overlaid, Keyed]

theorem keyed_mergeEntries : (es : List (Value × Value)) → KeyedEntries es →
    (bs : List (Value × Value)) → Keyed (dict bs) → Keyed (dict (mergeEntries bs es))
  | [], _, bs, hbs => by rwa [mergeEntries]
  | (k, v) :: es, ⟨hk, hv, hes⟩, bs, hbs => by
      have hover : Keyed (overlaid (lookup bs k) v) :=
        keyed_overlaid v hv (lookup bs k) fun u hu => keyed_of_lookup hbs.2 hu
      rw [mergeEntries]
      exact keyed_mergeEntries es hes _
        ⟨keysDiffer_insert hbs.1 _ _, keyedEntries_insert hbs.2 hk hover⟩
end

/-! ## Fields of sections -/

/-- What a mapping of mappings has under a section and a field. -/
def fieldIn? (es : List (Value × Value)) (section_ field : String) : Option Value :=
  match lookupText es section_ with
  | some (dict inner) => lookupText inner field
  | _ => none

/-- Every section that is there is a mapping. -/
def Sectioned (es : List (Value × Value)) : Prop :=
  ∀ section_ v, lookupText es section_ = some v → ∃ inner, v = dict inner

/-- What stands in a field after a merge with sections that are mappings. -/
theorem fieldIn?_mergeEntries (hkeyed : Keyed (dict es)) (hsectioned : Sectioned es)
    (bs : List (Value × Value)) (section_ field : String) :
    fieldIn? (mergeEntries bs es) section_ field =
      match fieldIn? es section_ field with
      | some v => some (overlaid (fieldIn? bs section_ field) v)
      | none => fieldIn? bs section_ field := by
  have hmerged := lookup_mergeEntries hkeyed.1 hkeyed.2 bs (.str section_)
  unfold fieldIn? lookupText at *
  rw [hmerged]
  cases hupper : lookup es (.str section_) with
  | none => rfl
  | some v =>
    obtain ⟨inner, rfl⟩ := hsectioned section_ v hupper
    obtain ⟨hdiffer, hentries⟩ := keyed_of_lookup hkeyed.2 hupper
    -- a section below that is no mapping has no fields: it is replaced as a whole
    cases hlower : lookup bs (.str section_) with
    | none => cases hfield : lookup inner (.str field) <;> simp [hfield]
    | some u =>
      cases u with
      | dict below => simp only [overlaid, lookup_mergeEntries hdiffer hentries]
      | _ => cases hfield : lookup inner (.str field) <;> simp [overlaid, hfield]

end Conformance.Value
