import Conformance.Proofs.Descriptor.Unnamed
import Conformance.Proofs.Number.Exact

/-!
# Conformance.Proofs.Value.Same

Equality of keys.

Numbers are the same if they stand at one place on the number line
(`sameNumber_iff`), whether they are booleans, integers or doubles.  So for
keys `same` goes both ways (`same_comm`) and is handed on (`same_trans`).  A
value need not be the same as itself: what is not a number has no place.
-/

namespace Conformance.Value

/-! ## Numbers -/

/-- The place of a number on the number line. -/
def Numeric.point? : Numeric → Option Number.Point
  | .int n => some (.finite n)
  | .float x => Number.point? x

/-- Numbers compare as equal if they stand at one place. -/
theorem Numeric.order_eq_iff (a b : Numeric) :
    a.order b = some .eq ↔ ∃ p, a.point? = some p ∧ b.point? = some p := by
  cases a with
  | int n =>
    cases b with
    | int m =>
      rw [order, Option.some.injEq, compare_eq_iff_eq]
      simp [point?, eq_comm]
    | float y =>
      rw [order, Number.compareIntFloat_eq_iff]
      simp [point?]
  | float x =>
    cases b with
    | int m =>
      have hswap : (Number.compareIntFloat m x).map Ordering.swap = some .eq ↔
          Number.compareIntFloat m x = some .eq := by
        cases Number.compareIntFloat m x with
        | none => simp
        | some o => cases o <;> simp
      rw [order, hswap, Number.compareIntFloat_eq_iff]
      simp [point?]
    | float y =>
      have hplace := Number.compare_eq_iff x y
      by_cases heq : x.toModel.unpack.compare y.toModel.unpack = some .eq
      · obtain ⟨hlt, hgt⟩ := Number.not_lt_of_compare heq
        rw [order, if_neg hlt, if_neg hgt, if_pos ((Number.beq_iff_compare x y).mpr heq)]
        exact iff_of_true rfl (hplace.mp heq)
      · have hbeq : ¬ (x == y) = true := mt (Number.beq_iff_compare x y).mp heq
        have horder : order (.float x) (.float y) ≠ some .eq := by
          rw [order, if_neg hbeq]
          split
          · simp
          · split <;> simp
        exact iff_of_false horder (mt hplace.mpr heq)

/-- The place of a value on the number line, if it is a number. -/
def point? (v : Value) : Option Number.Point := v.numeric?.bind Numeric.point?

/-- Two values are the same number exactly if they have the same place on the line. -/
theorem sameNumber_iff (v w : Value) :
    sameNumber v w = true ↔ ∃ p, v.point? = some p ∧ w.point? = some p := by
  unfold sameNumber point?
  cases v.numeric? with
  | none => simp
  | some a =>
    cases w.numeric? with
    | none => simp
    | some b => simp [Numeric.order_eq_iff]

/-- Which of the two comes first does not matter. -/
theorem sameNumber_comm (v w : Value) : sameNumber v w = sameNumber w v := by
  rw [Bool.eq_iff_iff, sameNumber_iff, sameNumber_iff]
  simp only [and_comm]

/-- To be the same number is handed on. -/
theorem sameNumber_trans {u v w : Value} (h : sameNumber u v = true) (h' : sameNumber v w = true) :
    sameNumber u w = true := by
  rw [sameNumber_iff] at *
  obtain ⟨p, hu, hv⟩ := h
  obtain ⟨q, hv', hw⟩ := h'
  obtain rfl : p = q := Option.some.inj (hv.symm.trans hv')
  exact ⟨p, hu, hw⟩

/-- A number is compared as one, on either side. -/
theorem same_of_numeric {v : Value} (hv : v.numeric?.isSome) (w : Value) :
    v.same w = sameNumber v w ∧ w.same v = sameNumber w v := by
  cases v with
  | bool | int | float => cases w <;> simp [same, sameNumber, numeric?]
  | _ => cases hv

/-! ## Keys -/

mutual
/-- For keys it does not matter which is compared with which. -/
theorem same_comm : (v : Value) → v.isKey → (w : Value) → v.same w = w.same v
  | bool _, _, w | int _, _, w | float _, _, w => by
      rw [(same_of_numeric rfl w).1, (same_of_numeric rfl w).2, sameNumber_comm]
  | nothing, _, w | missing, _, w => by cases w <;> simp [same, sameNumber, numeric?]
  | str _, _, w | bytes _, _, w | function _, _, w => by
      cases w <;> simp [same, sameNumber, numeric?, Bool.beq_comm]
  | descriptor d, _, w => by
      cases w with
      | descriptor e =>
        rw [same, same, Bool.eq_iff_iff, Descriptor.same_iff_unnamed, Descriptor.same_iff_unnamed,
          eq_comm]
      | _ => simp [same, sameNumber, numeric?]
  | just v, hv, w => by
      cases w with
      | just w => rw [same, same, same_comm v hv w]
      | _ => simp [same, sameNumber, numeric?]
  | tuple xs, hxs, w => by
      cases w with
      | tuple ys => rw [same, same, sameItems_comm xs hxs ys]
      | _ => simp [same, sameNumber, numeric?]

theorem sameItems_comm : (xs : List Value) → areKeys xs → (ys : List Value) →
    sameItems xs ys = sameItems ys xs
  | [], _, ys => by cases ys <;> rfl
  | x :: xs, h, ys => by
      cases ys with
      | nil => rfl
      | cons y ys =>
        rw [areKeys, Bool.and_eq_true] at h
        rw [sameItems, sameItems, same_comm x h.1 y, sameItems_comm xs h.2 ys]
end

/-- Only numbers are the same number. -/
theorem isSome_numeric_of_sameNumber {v w : Value} (h : sameNumber v w = true) :
    v.numeric?.isSome := by
  obtain ⟨p, hp, -⟩ := (sameNumber_iff v w).mp h
  obtain ⟨a, ha, -⟩ := Option.bind_eq_some_iff.mp hp
  simp [ha]

mutual
/-- What is the same as a key is the same as all that is the same as the key. -/
theorem same_trans : (v : Value) → v.isKey → (u w : Value) → u.same v = true →
    v.same w = true → u.same w = true
  | bool _, _, u, w, h, h' | int _, _, u, w, h, h' | float _, _, u, w, h, h' => by
      rw [(same_of_numeric rfl u).2] at h
      rw [(same_of_numeric rfl w).1] at h'
      rw [(same_of_numeric (isSome_numeric_of_sameNumber h) w).1]
      exact sameNumber_trans h h'
  | nothing, _, u, w, h, h' | missing, _, u, w, h, h' | str _, _, u, w, h, h'
  | bytes _, _, u, w, h, h' | function _, _, u, w, h, h' => by
      cases u <;> simp_all [same, sameNumber, numeric?]
  | descriptor d, _, u, w, h, h' => by
      cases u with
      | descriptor e =>
        cases w with
        | descriptor f =>
          rw [same, Descriptor.same_iff_unnamed] at *
          exact h.trans h'
        | _ => simp [same] at h'
      | _ => simp [same, sameNumber, numeric?] at h
  | just v, hv, u, w, h, h' => by
      cases u with
      | just u =>
        cases w with
        | just w =>
          rw [same] at *
          exact same_trans v hv u w h h'
        | _ => simp [same] at h'
      | _ => simp [same, sameNumber, numeric?] at h
  | tuple xs, hxs, u, w, h, h' => by
      cases u with
      | tuple us =>
        cases w with
        | tuple ws =>
          rw [same] at *
          exact sameItems_trans xs hxs us ws h h'
        | _ => simp [same] at h'
      | _ => simp [same, sameNumber, numeric?] at h

/-- Items in a row that are the same as others are the same as theirs. -/
theorem sameItems_trans : (xs : List Value) → areKeys xs → (us ws : List Value) →
    sameItems us xs = true → sameItems xs ws = true → sameItems us ws = true
  | [], _, us, ws, h, h' => by
      cases us with
      | nil => exact h'
      | cons => cases h
  | x :: xs, hxs, us, ws, h, h' => by
      cases us with
      | nil => cases h
      | cons u us =>
        cases ws with
        | nil => cases h'
        | cons w ws =>
          rw [areKeys, Bool.and_eq_true] at hxs
          rw [sameItems, Bool.and_eq_true] at *
          exact ⟨same_trans x hxs.1 u w h.1 h'.1, sameItems_trans xs hxs.2 us ws h.2 h'.2⟩
end

mutual
/-- What is the same as a key is a key. -/
theorem isKey_of_same : (v : Value) → v.isKey → (w : Value) → v.same w = true → w.isKey
  | bool _, _, w, h | int _, _, w, h | float _, _, w, h | nothing, _, w, h | missing, _, w, h
  | str _, _, w, h | bytes _, _, w, h | function _, _, w, h | descriptor _, _, w, h => by
      cases w <;> first | rfl | simp [same, sameNumber, numeric?] at h
  | just v, hv, w, h => by
      cases w with
      | just w => exact isKey_of_same v hv w (by rwa [same] at h)
      | _ => simp [same] at h
  | tuple xs, hxs, w, h => by
      cases w with
      | tuple ys => exact areKeys_of_sameItems xs hxs ys (by rwa [same] at h)
      | _ => simp [same] at h

/-- What is the same as keys are keys. -/
theorem areKeys_of_sameItems : (xs : List Value) → areKeys xs → (ys : List Value) →
    sameItems xs ys = true → areKeys ys
  | [], _, ys, h => by
      cases ys with
      | nil => rfl
      | cons => cases h
  | x :: xs, hxs, ys, h => by
      cases ys with
      | nil => cases h
      | cons y ys =>
        rw [areKeys, Bool.and_eq_true] at *
        rw [sameItems, Bool.and_eq_true] at h
        exact ⟨isKey_of_same x hxs.1 y h.1, areKeys_of_sameItems xs hxs.2 ys h.2⟩
end

/-- The key of an entry is compared with another as any key that is the same. -/
theorem same_congr {k k' e : Value} (hk : k.isKey) (h : k.same k' = true) :
    e.same k = e.same k' := by
  have hk' : k'.isKey := isKey_of_same k hk k' h
  have hback : k'.same k = true := by rw [← same_comm k hk, h]
  rw [Bool.eq_iff_iff]
  exact ⟨fun he => same_trans k hk e k' he h, fun he => same_trans k' hk' e k he hback⟩

/-- A text is the same as itself alone. -/
theorem str_same {key : Value} {name : String} : (str name).same key = true ↔ key = str name := by
  rw [same_comm (str name) rfl, same_str]

end Conformance.Value
