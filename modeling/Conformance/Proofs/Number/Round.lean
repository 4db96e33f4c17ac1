import Conformance.Proofs.Number.Nearest
import Mathlib

/-!
# Conformance.Proofs.Number.Round

The arithmetic of unpacked doubles rounds to nearest values.

An operation computes an integer mantissa that has enough digits, and two
bits that tell what is missing: `Tells em y` says which `y` such an extended
mantissa stands for.  Each shift halves `y`, and what is rounded at the end
is an integer closest to it (`Tells.closest`).  By then the mantissa has all
of its digits, or the last digit is the last there can be, so that the
integer is nearest among all doubles (`rounded_roundWithAccuracy`).

`Rounded u q` is what every operation comes to: `u` is in canonical form,
finite, and of a value nearest to `q`.
-/

namespace Conformance.Number

open Float.Model Float.Model.UnpackedFloat

/-! ## Values -/

/-- The sign as a factor. -/
def factor : Sign → ℚ
  | .positive => 1
  | .negative => -1

theorem cast_apply (s : Sign) (n : ℤ) : ((s.apply n : ℤ) : ℚ) = factor s * n := by
  cases s with
  | positive => simp [Sign.apply, factor]
  | negative => simp [Sign.apply, factor]

theorem factor_mul (s t : Sign) : factor (s * t) = factor s * factor t := by
  cases s <;> cases t
  exacts [(by norm_num : (1 : ℚ) = -1 * -1), (by norm_num : (-1 : ℚ) = -1 * 1),
    (by norm_num : (-1 : ℚ) = 1 * -1), (by norm_num : (1 : ℚ) = 1 * 1)]

theorem factor_div (s t : Sign) : factor (s / t) = factor s / factor t := by
  cases s <;> cases t
  exacts [(by norm_num : (1 : ℚ) = -1 / -1), (by norm_num : (-1 : ℚ) = -1 / 1),
    (by norm_num : (-1 : ℚ) = 1 / -1), (by norm_num : (1 : ℚ) = 1 / 1)]

theorem factor_neg (s : Sign) : factor (-s) = -factor s := by
  cases s
  exacts [(by norm_num : (1 : ℚ) = - -1), rfl]

/-- The value of an unpacked double, zero for one that has none. -/
def rational : UnpackedFloat → ℚ
  | .finite s m e _ => factor s * (m * 2 ^ e)
  | _ => 0

@[simp] theorem rational_zero (s : Sign) : rational (.zero s) = 0 := rfl

@[simp] theorem rational_finite (s : Sign) (m : ℕ) (e : ℤ) (hm : 0 < m) :
    rational (.finite s m e hm) = factor s * (m * 2 ^ e) := rfl

/-- The mantissa has all of its digits, or the last one is the last there can be. -/
def Canonical : UnpackedFloat → Prop
  | .finite _ m e _ => m < 2 ^ 53 ∧ -1074 ≤ e ∧ (2 ^ 52 ≤ m ∨ e = -1074)
  | _ => True

/-- What an operation comes to whose exact result is `q`. -/
structure Rounded (u : UnpackedFloat) (q : ℚ) : Prop where
  canonical : Canonical u
  finite : u.isFinite
  nearest : IsNearest (rational u) q

/-- A sign on both sides keeps one nearest to the other. -/
theorem IsNearest.factor_mul {r q : ℚ} (h : IsNearest r q) (s : Sign) :
    IsNearest (factor s * r) (factor s * q) := by
  cases s with
  | positive => simpa [factor] using h
  | negative => simpa [factor] using h.neg

/-- A number in canonical form can be represented. -/
theorem representable_rational {u : UnpackedFloat} (h : Canonical u) :
    Representable (rational u) := by
  cases u with
  | infinity | notANumber | zero => exact representable_zero
  | finite s m e hm =>
    obtain ⟨hlt, he, -⟩ := h
    have hpos : Representable (m * 2 ^ e) :=
      ⟨m, e, by rw [abs_of_nonneg (by omega)]; exact_mod_cast hlt, he, rfl⟩
    cases s with
    | positive => simpa [rational, factor] using hpos
    | negative => simpa [rational, factor] using hpos.neg

/-- A finite number in canonical form rounds to itself. -/
theorem Rounded.self {u : UnpackedFloat} (h : Canonical u) (hf : u.isFinite) :
    Rounded u (rational u) :=
  ⟨h, hf, .self (representable_rational h)⟩

/-! ## Extended mantissas -/

/-- What the two residual bits tell of the part that is missing. -/
def Remainder : (round sticky : Bool) → ℚ → Prop
  | false, false, r => r = 0
  | false, true, r => 0 < r ∧ r < 1 / 2
  | true, false, r => r = 1 / 2
  | true, true, r => 1 / 2 < r ∧ r < 1

/-- The value that an extended mantissa stands for. -/
def Tells (em : ExtendedMantissa) (y : ℚ) : Prop :=
  Remainder em.roundBit em.stickyBit (y - em.mantissa)

/-- What two digits stand for is less than a whole. -/
theorem Remainder.bounds {round sticky : Bool} {r : ℚ} (h : Remainder round sticky r) :
    0 ≤ r ∧ r < 1 := by
  cases round <;> cases sticky <;> simp only [Remainder] at h <;> constructor <;> linarith

/-- What is told of a number puts it between two mantissas that follow each other. -/
theorem Tells.bounds {em : ExtendedMantissa} {y : ℚ} (h : Tells em y) :
    em.mantissa ≤ y ∧ y < em.mantissa + 1 := by
  obtain ⟨hlow, hhigh⟩ := Remainder.bounds h
  constructor <;> linarith

/-- Halving moves the last bit of the mantissa into the remainder. -/
theorem Remainder.half {round sticky : Bool} {r : ℚ} (h : Remainder round sticky r) :
    Remainder false (round || sticky) (r / 2) ∧ Remainder true (round || sticky) ((1 + r) / 2) := by
  cases round <;> cases sticky <;>
    simp only [Remainder, Bool.or_false, Bool.or_true] at h ⊢ <;>
    refine ⟨?_, ?_⟩ <;> first | linarith | (constructor <;> linarith)

/-- To shift by one digit tells half the number. -/
theorem Tells.half {em : ExtendedMantissa} {y : ℚ} (h : Tells em y) :
    Tells em.shiftRightOne (y / 2) := by
  obtain ⟨heven, hodd⟩ := Remainder.half h
  have hsplit : (2 : ℚ) * (em.mantissa / 2 : ℕ) + (em.mantissa % 2 : ℕ) = em.mantissa := by
    exact_mod_cast Nat.div_add_mod em.mantissa 2
  show Remainder (em.mantissa % 2 != 0) _ (y / 2 - (em.mantissa / 2 : ℕ))
  rcases Nat.mod_two_eq_zero_or_one em.mantissa with hbit | hbit
  · have hrest : y / 2 - (em.mantissa / 2 : ℕ) = (y - em.mantissa) / 2 := by
      rw [hbit] at hsplit
      push_cast at hsplit
      linarith
    rw [hbit, hrest]
    exact heven
  · have hrest : y / 2 - (em.mantissa / 2 : ℕ) = (1 + (y - em.mantissa)) / 2 := by
      rw [hbit] at hsplit
      push_cast at hsplit
      linarith
    rw [hbit, hrest]
    exact hodd

/-- To shift by several tells as many halves. -/
theorem Tells.shift {em : ExtendedMantissa} {y : ℚ} (h : Tells em y) (k : ℕ) :
    Tells (em >>> k) (y / 2 ^ k) := by
  induction k with
  | zero =>
    rw [pow_zero, div_one]
    exact h
  | succ k ih =>
    rw [pow_succ, ← div_div]
    exact ih.half

/-- Rounding gives the mantissa or the next integer. -/
theorem roundedMantissa_bounds (em : ExtendedMantissa) :
    em.mantissa ≤ em.roundedMantissa ∧ em.roundedMantissa ≤ em.mantissa + 1 := by
  obtain ⟨m, round, sticky⟩ := em
  have hbit := Nat.mod_lt m (Nat.succ_pos 1)
  cases round <;> cases sticky <;>
    simp only [ExtendedMantissa.roundedMantissa, ExtendedMantissa.accuracy,
      Accuracy.roundToNearestEven] <;> omega

/-- No integer is closer than the rounded mantissa. -/
theorem Tells.closest {em : ExtendedMantissa} {y : ℚ} (h : Tells em y) (z : ℤ) :
    |(em.roundedMantissa : ℚ) - y| ≤ |z - y| := by
  obtain ⟨hlow, hhigh⟩ := h.bounds
  -- an integer is at least as far as the mantissa or the next integer
  have hfar : y - em.mantissa ≤ |z - y| ∨ em.mantissa + 1 - y ≤ |z - y| := by
    rcases le_or_gt z em.mantissa with hz | hz
    · have hzq : (z : ℚ) ≤ em.mantissa := by exact_mod_cast hz
      exact .inl (by rw [abs_sub_comm]; exact le_abs.mpr (.inl (by linarith)))
    · have hzq : (em.mantissa : ℚ) + 1 ≤ z := by exact_mod_cast hz
      exact .inr (le_abs.mpr (.inl (by linarith)))
  obtain ⟨m, round, sticky⟩ := em
  have htie : m % 2 = 0 ∨ m % 2 = 1 := Nat.mod_two_eq_zero_or_one m
  cases round <;> cases sticky <;>
    simp only [Tells, Remainder, ExtendedMantissa.roundedMantissa, ExtendedMantissa.accuracy,
      Accuracy.roundToNearestEven] at h hlow hhigh hfar ⊢
  case false.false =>
    rw [abs_of_nonpos (by linarith)]
    rcases hfar with hfar | hfar <;> linarith
  case false.true =>
    rw [abs_of_nonpos (by linarith)]
    rcases hfar with hfar | hfar <;> linarith
  case true.false =>
    have hhalf : |((m + m % 2 : ℕ) : ℚ) - y| = 1 / 2 := by
      rcases htie with htie | htie <;> rw [htie]
      · rw [abs_of_nonpos (by push_cast; linarith)]
        push_cast
        linarith
      · rw [abs_of_nonneg (by push_cast; linarith)]
        push_cast
        linarith
    rw [hhalf]
    rcases hfar with hfar | hfar <;> linarith
  case true.true =>
    rw [abs_of_nonneg (by push_cast; linarith)]
    push_cast
    rcases hfar with hfar | hfar <;> linarith

/-! ## Rounding -/

/-- The exponent to round to keeps 53 digits, unless the number is tiny. -/
theorem targetExponent_eq (t : ℤ) : Format.binary64.targetExponent t = max (t - 53) (-1074) := rfl

/-- The exponent that a mantissa is shifted to. -/
theorem targetExponent_totalExponent (m : ℕ) (e : ℤ) :
    Format.binary64.targetExponent (totalExponent m e) = max (m.log2 + 1 + e - 53) (-1074) := rfl

/-- A mantissa that is rounded up to one digit more is shifted by one place,
any other is left as it is. -/
theorem renormalized {r : ℕ} {e : ℤ} (hr : r ≤ 2 ^ 53) (he : -1074 ≤ e) :
    shiftToTargetExponent Format.binary64 r e .exact =
      if r = 2 ^ 53 then (⟨2 ^ 52, false, false⟩, e + 1) else (⟨r, false, false⟩, e) := by
  split
  · next hfull =>
    subst hfull
    have hlog : (2 ^ 53 : ℕ).log2 = 53 := Nat.log2_two_pow
    have hone : (max ((53 : ℕ) + 1 + e - 53) (-1074) - e).toNat = 1 := by omega
    rw [shiftToTargetExponent, targetExponent_totalExponent, hlog, shiftToExponent]
    simp only [hone]
    rfl
  · next hpart =>
    have hlog : r.log2 ≤ 52 := by
      rcases Nat.eq_zero_or_pos r with rfl | hpos
      · decide
      · have hlt : r.log2 < 53 := (Nat.log2_lt hpos.ne').mpr (by omega)
        omega
    have hnone : (max ((r.log2 : ℤ) + 1 + e - 53) (-1074) - e).toNat = 0 := by omega
    rw [shiftToTargetExponent, targetExponent_totalExponent, shiftToExponent]
    simp only [hnone]
    rw [Nat.cast_zero, add_zero]
    rfl

/-- How far a mantissa is shifted: it keeps at most 53 digits, and it keeps
all of them unless the last one is the last there can be. -/
theorem shifted_bounds {m k : ℕ} {e : ℤ} {y : ℚ} (hlow : m ≤ y) (hhigh : y < m + 1)
    (hk : e + k = max (m.log2 + 1 + e - 53) (-1074)) :
    y / 2 ^ k < 2 ^ 53 ∧ (2 ^ 52 ≤ y / 2 ^ k ∨ e + k = -1074) := by
  have hpow : (0 : ℚ) < 2 ^ k := by positivity
  constructor
  · rw [div_lt_iff₀ hpow, ← pow_add]
    have hdigits : m + 1 ≤ 2 ^ (53 + k) :=
      (Nat.lt_log2_self (n := m)).trans_le (Nat.pow_le_pow_right two_pos (by omega))
    have hdigitsq : (m : ℚ) + 1 ≤ 2 ^ (53 + k) := by exact_mod_cast hdigits
    linarith
  · by_cases hlast : e + k = -1074
    · exact .inr hlast
    · have hlog : 52 + k = m.log2 := by omega
      have hm : m ≠ 0 := by
        rintro rfl
        rw [Nat.log2_zero] at hlog
        omega
      have hdigits : (2 : ℚ) ^ (52 + k) ≤ m := by
        rw [hlog]
        exact_mod_cast Nat.log2_self_le hm
      refine .inl ((le_div_iff₀ hpow).mpr ?_)
      rw [← pow_add]
      linarith

/-- An unpacked double of a mantissa that may be zero. -/
def finished (s : Sign) (m : ℕ) (e : ℤ) : UnpackedFloat :=
  if h : m = 0 then .zero s else .finite s m e (Nat.pos_of_ne_zero h)

/-- What is finished is rounded if its mantissa is nearest. -/
theorem rounded_finished {s : Sign} {m : ℕ} {e : ℤ} {q : ℚ} (hm : m < 2 ^ 53) (he : -1074 ≤ e)
    (hfull : 2 ^ 52 ≤ m ∨ e = -1074) (hq : IsNearest (factor s * (m * 2 ^ e)) q) :
    Rounded (finished s m e) q := by
  unfold finished
  split
  · next hzero =>
    rw [hzero, Nat.cast_zero, zero_mul, mul_zero] at hq
    exact ⟨trivial, rfl, hq⟩
  · exact ⟨⟨hm, he, hfull⟩, rfl, hq⟩

/-- What comes after the first shift. -/
theorem roundWithAccuracy_eq {s : Sign} {m : ℕ} {e place : ℤ} {acc : Accuracy}
    {em : ExtendedMantissa} (hfirst : shiftToTargetExponent Format.binary64 m e acc = (em, place))
    (hmost : em.roundedMantissa ≤ 2 ^ 53) (hplace : -1074 ≤ place) :
    roundWithAccuracy Format.binary64 s m e acc =
      if em.roundedMantissa = 2 ^ 53 then finished s (2 ^ 52) (place + 1)
      else finished s em.roundedMantissa place := by
  unfold roundWithAccuracy finished
  simp only [hfirst, renormalized hmost hplace]
  by_cases hfull : em.roundedMantissa = 2 ^ 53
  · simp only [if_pos hfull]
  · simp only [if_neg hfull]

/-- A mantissa with enough digits, and what its accuracy tells of the rest,
is rounded to a nearest value. -/
theorem rounded_roundWithAccuracy (s : Sign) {m : ℕ} {e : ℤ} {acc : Accuracy} {y : ℚ}
    (hy : Tells (.ofMantissaAndAccuracy m acc) y)
    (he : e ≤ Format.binary64.targetExponent (totalExponent m e)) :
    Rounded (roundWithAccuracy Format.binary64 s m e acc) (factor s * (y * 2 ^ e)) := by
  rw [targetExponent_totalExponent] at he
  have hmantissa : (ExtendedMantissa.ofMantissaAndAccuracy m acc).mantissa = m := by
    unfold ExtendedMantissa.ofMantissaAndAccuracy
    split <;> rfl
  obtain ⟨k, hk⟩ : ∃ k : ℕ, e + k = max (m.log2 + 1 + e - 53) (-1074) :=
    ⟨(max ((m.log2 : ℤ) + 1 + e - 53) (-1074) - e).toNat, by omega⟩
  have hamount : (max ((m.log2 : ℤ) + 1 + e - 53) (-1074) - e).toNat = k := by omega
  have hplace : -1074 ≤ e + k := by omega
  -- the first shift drops the digits that are too many
  obtain ⟨em, hem⟩ : ∃ em, em = ExtendedMantissa.ofMantissaAndAccuracy m acc >>> k := ⟨_, rfl⟩
  have hfirst : shiftToTargetExponent Format.binary64 m e acc = (em, e + k) := by
    rw [shiftToTargetExponent, targetExponent_totalExponent, shiftToExponent]
    simp only [hamount, hem]
  have htells : Tells em (y / 2 ^ k) := hem ▸ hy.shift k
  obtain ⟨hlow, hhigh⟩ := hy.bounds
  rw [hmantissa] at hlow hhigh
  obtain ⟨hless, hfull⟩ := shifted_bounds hlow hhigh hk
  -- what is rounded has 53 digits, or it is rounded up to one more
  have hrounded := roundedMantissa_bounds em
  obtain ⟨hemLow, hemHigh⟩ := htells.bounds
  have hmost : em.roundedMantissa ≤ 2 ^ 53 := by
    have hlt : em.mantissa < 2 ^ 53 := by exact_mod_cast hemLow.trans_lt hless
    omega
  have hleast : 2 ^ 52 ≤ em.roundedMantissa ∨ e + k = -1074 := by
    refine hfull.imp_left fun hfull => ?_
    have hlt : 2 ^ 52 < em.mantissa + 1 := by exact_mod_cast hfull.trans_lt hemHigh
    omega
  have hnearest : IsNearest (factor s * (em.roundedMantissa * 2 ^ (e + k)))
      (factor s * (y * 2 ^ e)) := by
    have hscaled : y / 2 ^ k * 2 ^ (e + k) = y * 2 ^ e := by
      rw [zpow_add₀ two_ne_zero, zpow_natCast, mul_comm ((2 : ℚ) ^ e), ← mul_assoc,
        div_mul_cancel₀ _ (by positivity)]
    rw [← hscaled]
    exact (IsNearest.scaled hmost hplace hfull htells.closest).factor_mul s
  rw [roundWithAccuracy_eq hfirst hmost hplace]
  split
  · next hcarry =>
    refine rounded_finished (by norm_num) (by omega) (.inl le_rfl) ?_
    rw [hcarry] at hnearest
    rw [zpow_add_one₀ two_ne_zero]
    convert hnearest using 2
    push_cast
    ring
  · next hpart => exact rounded_finished (by omega) hplace hleast hnearest

/-- A mantissa tells itself. -/
theorem tells_exact (m : ℕ) : Tells (.ofMantissaAndAccuracy m .exact) m := by
  show Remainder false false ((m : ℚ) - m)
  exact sub_self _

theorem log2_shiftLeft {m : ℕ} (hm : m ≠ 0) (k : ℕ) : (m <<< k).log2 = m.log2 + k := by
  induction k with
  | zero => rfl
  | succ k ih =>
    have hne : m <<< k ≠ 0 := by
      rw [Nat.shiftLeft_eq]
      positivity
    rw [Nat.shiftLeft_succ, Nat.log2_two_mul hne, ih, add_assoc]

/-- A mantissa is shifted to as many digits as there are, and then rounded. -/
theorem rounded_round (s : Sign) {m : ℕ} (hm : m ≠ 0) (e : ℤ) :
    Rounded (UnpackedFloat.round Format.binary64 s m e) (factor s * (m * 2 ^ e)) := by
  unfold UnpackedFloat.round decreaseExponent
  rw [targetExponent_totalExponent]
  simp only
  generalize hk : (e - max ((m.log2 : ℤ) + 1 + e - 53) (-1074)).toNat = k
  have hlog : (m <<< k).log2 = m.log2 + k := log2_shiftLeft hm k
  have hvalue : ((m <<< k : ℕ) : ℚ) * 2 ^ (e - k) = m * 2 ^ e := by
    rw [Nat.shiftLeft_eq, two_zpow_eq e k]
    push_cast
    ring
  rw [← hvalue]
  refine rounded_roundWithAccuracy s (tells_exact _) ?_
  rw [targetExponent_totalExponent, hlog]
  omega

theorem rounded_zero (s : Sign) : Rounded (.zero s) 0 := ⟨trivial, rfl, .self representable_zero⟩

/-- An integer at an exponent is rounded as the number it is. -/
theorem rounded_normalize (n e : ℤ) (s : Sign) :
    Rounded (UnpackedFloat.normalize Format.binary64 n e s) (n * 2 ^ e) := by
  unfold UnpackedFloat.normalize
  rcases lt_trichotomy n 0 with hn | rfl | hn
  · rw [Int.compare_eq_lt.mpr hn]
    have habs : (((-n).toNat : ℕ) : ℚ) = -n := by
      have hint : (((-n).toNat : ℕ) : ℤ) = -n := Int.toNat_of_nonneg (by omega)
      exact_mod_cast hint
    have hvalue : (n : ℚ) * 2 ^ e = factor .negative * ((-n).toNat * 2 ^ e) := by
      rw [habs, factor]
      ring
    rw [hvalue]
    exact rounded_round .negative (by omega) e
  · rw [Int.compare_eq_eq.mpr rfl, Int.cast_zero, zero_mul]
    exact rounded_zero s
  · rw [Int.compare_eq_gt.mpr hn]
    have habs : ((n.toNat : ℕ) : ℚ) = n := by
      have hint : ((n.toNat : ℕ) : ℤ) = n := Int.toNat_of_nonneg hn.le
      exact_mod_cast hint
    have hvalue : (n : ℚ) * 2 ^ e = factor .positive * (n.toNat * 2 ^ e) := by
      rw [habs, factor, one_mul]
    rw [hvalue]
    exact rounded_round .positive (by omega) e

/-! ## Operations -/

section

variable {x y : UnpackedFloat}

/-- Canonical form does not depend on the sign. -/
theorem Canonical.neg (h : Canonical x) : Canonical x.neg := by
  cases x with
  | infinity | notANumber | zero => trivial
  | finite s m e hm => exact h

theorem isFinite_neg (x : UnpackedFloat) : x.neg.isFinite = x.isFinite := by
  cases x <;> rfl

/-- The other sign is the other number. -/
theorem rational_neg (x : UnpackedFloat) : rational x.neg = -rational x := by
  cases x with
  | infinity | notANumber | zero => exact neg_zero.symm
  | finite s m e hm => rw [UnpackedFloat.neg, rational_finite, rational_finite, factor_neg, neg_mul]

/-- A mantissa shifted to a smaller exponent. -/
theorem decreaseExponent_value (m : ℕ) {e t : ℤ} (h : t ≤ e) :
    ((decreaseExponent m e t).1 : ℚ) * 2 ^ t = m * 2 ^ e := by
  have hk : e - (e - t).toNat = t := by omega
  rw [decreaseExponent, Nat.shiftLeft_eq, two_zpow_eq e (e - t).toNat, hk]
  push_cast
  ring

/-- A sum is rounded from the exact one. -/
theorem rounded_add (hx : Canonical x) (hy : Canonical y) (hxf : x.isFinite) (hyf : y.isFinite) :
    Rounded (UnpackedFloat.add Format.binary64 x y) (rational x + rational y) := by
  cases x with
  | infinity | notANumber => cases hxf
  | zero s =>
    cases y with
    | infinity | notANumber => cases hyf
    | zero t =>
      have hzero : UnpackedFloat.add Format.binary64 (.zero s) (.zero t) =
          .zero (if s == t then s else .positive) := by
        rw [UnpackedFloat.add]
        split <;> rfl
      rw [hzero, rational_zero, rational_zero, add_zero]
      exact rounded_zero _
    | finite t m e hm =>
      rw [rational_zero, zero_add]
      exact .self hy rfl
  | finite s m e hm =>
    cases y with
    | infinity | notANumber => cases hyf
    | zero t =>
      rw [rational_zero, add_zero]
      exact .self hx rfl
    | finite t n i hn =>
      have hsum : rational (.finite s m e hm) + rational (.finite t n i hn) =
          ((s.apply (decreaseExponent m e (min e i)).1 +
            t.apply (decreaseExponent n i (min e i)).1 : ℤ) : ℚ) * 2 ^ min e i := by
        rw [Int.cast_add, cast_apply, cast_apply, rational_finite, rational_finite,
          ← decreaseExponent_value m (min_le_left e i),
          ← decreaseExponent_value n (min_le_right e i)]
        push_cast
        ring
      rw [hsum]
      exact rounded_normalize _ _ _

theorem apply_neg (s : Sign) (n : ℤ) : (-s).apply n = -s.apply n := by
  cases s with
  | positive => rfl
  | negative => exact (neg_neg n).symm

/-- What is subtracted is added with the other sign. -/
theorem sub_eq_add (spec : Format) (x y : UnpackedFloat) :
    UnpackedFloat.sub spec x y = UnpackedFloat.add spec x y.neg := by
  cases x with
  | finite s m e hm =>
    cases y with
    | finite t n i hn =>
      simp only [UnpackedFloat.sub, UnpackedFloat.add, UnpackedFloat.neg, apply_neg,
        Int.sub_eq_add_neg]
    | infinity | notANumber | zero => rfl
  | infinity | notANumber | zero => cases y <;> rfl

theorem rounded_sub (hx : Canonical x) (hy : Canonical y) (hxf : x.isFinite) (hyf : y.isFinite) :
    Rounded (UnpackedFloat.sub Format.binary64 x y) (rational x - rational y) := by
  rw [sub_eq_add, sub_eq_add_neg, ← rational_neg]
  exact rounded_add hx hy.neg hxf (isFinite_neg y ▸ hyf)

/-- A product of two mantissas of which one has all of its digits, or of two
of the smallest exponent, needs no digits more. -/
theorem le_targetExponent_mul {m n : ℕ} {e i : ℤ} (hm0 : 0 < m) (hn0 : 0 < n)
    (hm : 2 ^ 52 ≤ m ∨ e = -1074) (hn : 2 ^ 52 ≤ n ∨ i = -1074) :
    e + i ≤ Format.binary64.targetExponent (totalExponent (m * n) (e + i)) := by
  rw [targetExponent_totalExponent]
  have hne : m * n ≠ 0 := (Nat.mul_pos hm0 hn0).ne'
  have hfull : 2 ^ 52 ≤ m * n → 52 ≤ (m * n).log2 := (Nat.le_log2 hne).mpr
  rcases hm with hm | hm
  · have hlog := hfull (hm.trans (Nat.le_mul_of_pos_right m hn0))
    omega
  · rcases hn with hn | hn
    · have hlog := hfull (hn.trans (Nat.le_mul_of_pos_left n hm0))
      omega
    · omega

theorem rounded_mul (hx : Canonical x) (hy : Canonical y) (hxf : x.isFinite) (hyf : y.isFinite) :
    Rounded (UnpackedFloat.mul Format.binary64 x y) (rational x * rational y) := by
  cases x with
  | infinity | notANumber => cases hxf
  | zero s =>
    rw [rational_zero, zero_mul]
    cases y with
    | infinity | notANumber => cases hyf
    | zero t | finite t => exact rounded_zero _
  | finite s m e hm =>
    cases y with
    | infinity | notANumber => cases hyf
    | zero t =>
      rw [rational_zero, mul_zero]
      exact rounded_zero _
    | finite t n i hn =>
      have hproduct : rational (.finite s m e hm) * rational (.finite t n i hn) =
          factor (s * t) * ((m * n : ℕ) * 2 ^ (e + i)) := by
        rw [factor_mul, rational_finite, rational_finite, zpow_add₀ two_ne_zero]
        push_cast
        ring
      rw [hproduct]
      exact rounded_roundWithAccuracy _ (tells_exact _)
        (le_targetExponent_mul hm hn hx.2.2 hy.2.2)

/-- What a fraction is compared with tells what is missing. -/
theorem tells_fraction (q : ℕ) {r d : ℕ} (h : r < d) :
    Tells (.ofMantissaAndAccuracy q (accuracyOfFraction r d)) (q + r / d) := by
  have hd : (0 : ℚ) < d := by exact_mod_cast Nat.zero_lt_of_lt h
  have hrest : (q : ℚ) + r / d - q = r / d := add_sub_cancel_left _ _
  have hlt : (r : ℚ) / d < 1 := (div_lt_one hd).mpr (by exact_mod_cast h)
  unfold accuracyOfFraction
  split
  · next hzero =>
    show Remainder false false (q + r / d - q)
    rw [hrest, hzero, Nat.cast_zero, zero_div]
    rfl
  · next hpos =>
    rcases lt_trichotomy (2 * r) d with hcmp | hcmp | hcmp
    · rw [Nat.compare_eq_lt.mpr hcmp]
      show Remainder false true (q + r / d - q)
      rw [hrest]
      have hcmpq : (2 : ℚ) * r < d := by exact_mod_cast hcmp
      have hrq : (0 : ℚ) < r := by exact_mod_cast Nat.pos_of_ne_zero hpos
      exact ⟨div_pos hrq hd, by rw [div_lt_div_iff₀ hd two_pos]; linarith⟩
    · rw [Nat.compare_eq_eq.mpr hcmp]
      show Remainder true false (q + r / d - q)
      rw [hrest]
      have hcmpq : (2 : ℚ) * r = d := by exact_mod_cast hcmp
      show (r : ℚ) / d = 1 / 2
      rw [div_eq_div_iff hd.ne' two_ne_zero]
      linarith
    · rw [Nat.compare_eq_gt.mpr hcmp]
      show Remainder true true (q + r / d - q)
      rw [hrest]
      have hcmpq : (d : ℚ) < 2 * r := by exact_mod_cast hcmp
      exact ⟨by rw [div_lt_div_iff₀ two_pos hd]; linarith, hlt⟩

/-- A quotient of a mantissa that is shifted far enough has all of its digits. -/
theorem le_log2_quotient {m n k : ℕ} (hm : m ≠ 0) (hn : n ≠ 0) (hk : n.log2 + 53 ≤ m.log2 + k) :
    52 ≤ ((m <<< k) / n).log2 := by
  have hlarge : 2 ^ 52 * n ≤ m <<< k := by
    rw [Nat.shiftLeft_eq]
    calc 2 ^ 52 * n ≤ 2 ^ 52 * 2 ^ (n.log2 + 1) :=
          Nat.mul_le_mul_left _ (Nat.lt_log2_self (n := n)).le
      _ = 2 ^ (n.log2 + 53) := by rw [← pow_add, add_comm 52, add_assoc]
      _ ≤ 2 ^ (m.log2 + k) := Nat.pow_le_pow_right two_pos hk
      _ = 2 ^ m.log2 * 2 ^ k := pow_add 2 _ _
      _ ≤ m * 2 ^ k := Nat.mul_le_mul_right _ (Nat.log2_self_le hm)
  have hquotient : 2 ^ 52 ≤ (m <<< k) / n :=
    (Nat.le_div_iff_mul_le (Nat.pos_of_ne_zero hn)).mpr hlarge
  exact (Nat.le_log2 (by omega)).mpr hquotient

theorem rounded_div (hxf : x.isFinite) (hyf : y.isFinite) (hy0 : rational y ≠ 0) :
    Rounded (UnpackedFloat.div Format.binary64 x y) (rational x / rational y) := by
  cases y with
  | infinity | notANumber => cases hyf
  | zero t => exact absurd rfl hy0
  | finite t n i hn =>
    cases x with
    | infinity | notANumber => cases hxf
    | zero s =>
      rw [rational_zero, zero_div]
      exact rounded_zero _
    | finite s m e hm =>
      obtain ⟨place, hplace⟩ : ∃ place, place = min (e - i)
          (max ((m.log2 + 1 + e) - (n.log2 + 1 + i) - 53) (-1074)) := ⟨_, rfl⟩
      obtain ⟨k, hk⟩ : ∃ k : ℕ, e - i - place = k := ⟨(e - i - place).toNat, by omega⟩
      have hcore : divCore Format.binary64 m e n i =
          ((m <<< k) / n, place, accuracyOfFraction ((m <<< k) % n) n) := by
        have hamount : (e - i - place).toNat = k := by omega
        rw [divCore, targetExponent_eq]
        simp only [totalExponent, ← hplace, hamount]
      have hquotient : ((m <<< k) / n : ℕ) + ((m <<< k) % n : ℕ) / n = (m * 2 ^ k / n : ℚ) := by
        have hsplit : (n : ℚ) * ((m <<< k) / n : ℕ) + ((m <<< k) % n : ℕ) = m * 2 ^ k := by
          rw [← Nat.cast_two, ← Nat.cast_pow, ← Nat.cast_mul m, ← Nat.shiftLeft_eq]
          exact_mod_cast Nat.div_add_mod (m <<< k) n
        have hnq : (n : ℚ) ≠ 0 := by exact_mod_cast hn.ne'
        rw [← hsplit, add_div, mul_div_cancel_left₀ _ hnq]
      have hvalue : rational (.finite s m e hm) / rational (.finite t n i hn) =
          factor (s / t) * ((m * 2 ^ k / n) * 2 ^ place) := by
        have hshift : (2 : ℚ) ^ k * 2 ^ place * 2 ^ i = 2 ^ e := by
          rw [← zpow_natCast, ← zpow_add₀ two_ne_zero, ← zpow_add₀ two_ne_zero]
          congr 1
          omega
        rw [factor_div, rational_finite, rational_finite, ← hshift]
        field_simp
      rw [hvalue, ← hquotient, UnpackedFloat.div, hcore]
      refine rounded_roundWithAccuracy _ (tells_fraction _ (Nat.mod_lt _ hn)) ?_
      rw [targetExponent_totalExponent]
      by_cases hlast : place ≤ -1074
      · omega
      · have hlog := le_log2_quotient hm.ne' hn.ne' (k := k) (by omega)
        omega

end

end Conformance.Number
