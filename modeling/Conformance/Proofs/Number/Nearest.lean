import Mathlib.Algebra.Order.Field.Power
import Mathlib.Data.Rat.Cast.Order
import Mathlib.Tactic.Linarith
import Mathlib.Tactic.NormNum
import Mathlib.Tactic.Positivity
import Mathlib.Tactic.Ring

/-!
# Conformance.Proofs.Number.Nearest

Rounding to doubles, over the rationals.

`Representable` are the values that a double of unbounded range has: 53
binary digits, none of them below `2 ^ -1074`.  `IsNearest r q` says that
`r` is such a value and none is closer to `q`.  Rounding so passes over no
representable value (`IsNearest.le_of_le`, `IsNearest.ge_of_ge`); which of
two values is taken that are equally close is left open, and nothing here
depends on it.

The main result is about interpolation: `low + (high - low) * u`, rounded
after each operation, stays between the bounds for every `u` that falls
short of 1 by a unit of the last place (`interpolate_mem`).  The difference
may be rounded up; a product that reached it would leave the interval, but
the unit that is missing is enough for the product to be rounded away from
it (`IsNearest.lt_of_shrunk`).
-/

namespace Conformance.Number

/-- A value that a double has, its range left aside. -/
def Representable (q : ℚ) : Prop :=
  ∃ m e : ℤ, |m| < 2 ^ 53 ∧ -1074 ≤ e ∧ q = m * 2 ^ e

/-- A representable value that none is closer than. -/
structure IsNearest (r q : ℚ) : Prop where
  representable : Representable r
  closest : ∀ f, Representable f → |r - q| ≤ |f - q|

/-- The smallest positive value. -/
def tiny : ℚ := 2 ^ (-1074 : ℤ)

theorem tiny_pos : 0 < tiny := by
  unfold tiny
  positivity

/-- A power of two with some places taken off its exponent. -/
theorem two_zpow_eq (e : ℤ) (k : ℕ) : (2 : ℚ) ^ e = 2 ^ (e - k) * 2 ^ k := by
  rw [← zpow_natCast, ← zpow_add₀ two_ne_zero, sub_add_cancel]

/-! ## Representable values -/

theorem representable_zero : Representable 0 := ⟨0, 0, by norm_num, by norm_num, by norm_num⟩

/-- What can be represented can be with the other sign. -/
theorem Representable.neg {q : ℚ} (h : Representable q) : Representable (-q) := by
  obtain ⟨m, e, hm, he, rfl⟩ := h
  refine ⟨-m, e, by rwa [abs_neg], he, ?_⟩
  push_cast
  ring

/-- Every representable value is a multiple of the smallest one. -/
theorem Representable.exists_multiple {q : ℚ} (h : Representable q) : ∃ k : ℤ, q = k * tiny := by
  obtain ⟨m, e, -, he, rfl⟩ := h
  obtain ⟨n, hn⟩ : ∃ n : ℕ, e - n = -1074 := ⟨(e + 1074).toNat, by omega⟩
  refine ⟨m * 2 ^ n, ?_⟩
  rw [two_zpow_eq e n, hn, ← tiny]
  push_cast
  ring

/-- A difference that is not too large is representable. -/
theorem Representable.sub_of_lt {a b : ℚ} (ha : Representable a) (hb : Representable b)
    (hsmall : |b - a| < 2 ^ 53 * tiny) : Representable (b - a) := by
  obtain ⟨j, rfl⟩ := ha.exists_multiple
  obtain ⟨k, rfl⟩ := hb.exists_multiple
  refine ⟨k - j, -1074, ?_, le_refl _, by rw [← tiny]; push_cast; ring⟩
  rw [← sub_mul, abs_mul, abs_of_pos tiny_pos] at hsmall
  have hlt := lt_of_mul_lt_mul_right hsmall tiny_pos.le
  exact_mod_cast hlt

/-- Away from zero a representable value has all of its digits. -/
theorem Representable.exists_normal {q : ℚ} (h : Representable q) (hq : 2 ^ 53 * tiny ≤ q) :
    ∃ m e : ℤ, 2 ^ 52 ≤ m ∧ m < 2 ^ 53 ∧ -1073 ≤ e ∧ q = m * 2 ^ e := by
  obtain ⟨m, e, hm, -, rfl⟩ := h
  have hpow : (0 : ℚ) < 2 ^ e := by positivity
  have hm0 : 0 < m := by
    have hpos : (0 : ℚ) < m * 2 ^ e := lt_of_lt_of_le (mul_pos (by norm_num) tiny_pos) hq
    exact_mod_cast pos_of_mul_pos_left hpos hpow.le
  obtain ⟨n, rfl⟩ := Int.eq_ofNat_of_zero_le hm0.le
  rw [abs_of_pos hm0] at hm
  have hlog : n.log2 < 53 := (Nat.log2_lt (by omega)).mpr (by exact_mod_cast hm)
  have hlow := Nat.log2_self_le (n := n) (by omega)
  have hhigh := Nat.lt_log2_self (n := n)
  -- the digits that are missing are shifted in
  obtain ⟨k, hk⟩ : ∃ k, k + n.log2 = 52 := ⟨52 - n.log2, by omega⟩
  have hvalue : ((n : ℤ) : ℚ) * 2 ^ e = ((n * 2 ^ k : ℕ) : ℤ) * 2 ^ (e - k) := by
    rw [two_zpow_eq e k]
    push_cast
    ring
  have hdigits : 2 ^ 52 ≤ n * 2 ^ k ∧ n * 2 ^ k < 2 ^ 53 := by
    constructor
    · calc 2 ^ 52 = 2 ^ n.log2 * 2 ^ k := by rw [← pow_add, add_comm, hk]
        _ ≤ n * 2 ^ k := Nat.mul_le_mul_right _ hlow
    · calc n * 2 ^ k < 2 ^ (n.log2 + 1) * 2 ^ k := Nat.mul_lt_mul_of_pos_right hhigh (by positivity)
        _ = 2 ^ 53 := by rw [← pow_add, add_right_comm, add_comm n.log2, hk]
  refine ⟨(n * 2 ^ k : ℕ), e - k, by exact_mod_cast hdigits.1, by exact_mod_cast hdigits.2, ?_,
    hvalue⟩
  by_contra hlt
  have hexp : (2 : ℚ) ^ (e - k) ≤ tiny := zpow_le_zpow_right₀ (by norm_num) (by omega)
  have hmant : (((n * 2 ^ k : ℕ) : ℤ) : ℚ) < 2 ^ 53 := by exact_mod_cast hdigits.2
  have htop : (((n * 2 ^ k : ℕ) : ℤ) : ℚ) * 2 ^ (e - k) < 2 ^ 53 * tiny :=
    mul_lt_mul hmant hexp (by positivity) (by norm_num)
  rw [hvalue] at hq
  exact absurd hq htop.not_ge

/-! ## Nearest values -/

namespace IsNearest

variable {r q f : ℚ}

/-- Rounding does not pass below a representable value. -/
theorem le_of_le (h : IsNearest r q) (hf : Representable f) (hle : f ≤ q) : f ≤ r := by
  by_contra hlt
  have hclosest := h.closest f hf
  rw [abs_of_nonpos (by linarith : r - q ≤ 0), abs_of_nonpos (by linarith : f - q ≤ 0)] at hclosest
  linarith

/-- Rounding does not pass above a representable value. -/
theorem ge_of_ge (h : IsNearest r q) (hf : Representable f) (hle : q ≤ f) : r ≤ f := by
  by_contra hlt
  have hclosest := h.closest f hf
  rw [abs_of_nonneg (by linarith : 0 ≤ r - q), abs_of_nonneg (by linarith : 0 ≤ f - q)] at hclosest
  linarith

/-- What is representable is not rounded. -/
theorem eq_of_representable (h : IsNearest r q) (hq : Representable q) : r = q :=
  le_antisymm (h.ge_of_ge hq le_rfl) (h.le_of_le hq le_rfl)

/-- A value that is there is nearest to itself. -/
theorem self (h : Representable q) : IsNearest q q :=
  ⟨h, fun f _ => by rw [sub_self, abs_zero]; exact abs_nonneg _⟩

/-- To turn the signs of both keeps one nearest to the other. -/
theorem neg (h : IsNearest r q) : IsNearest (-r) (-q) := by
  refine ⟨h.representable.neg, fun f hf => ?_⟩
  have hclosest := h.closest (-f) hf.neg
  rw [← abs_neg, ← abs_neg (f - -q)]
  convert hclosest using 2 <;> ring

/-- An integer that is closest to `y`, at a place where no digit is missing or
at the last one, is nearest among all representable values. -/
theorem scaled {y : ℚ} {n : ℕ} {e : ℤ} (hn : n ≤ 2 ^ 53) (he : -1074 ≤ e)
    (hy : 2 ^ 52 ≤ y ∨ e = -1074) (hclosest : ∀ z : ℤ, |(n : ℚ) - y| ≤ |z - y|) :
    IsNearest (n * 2 ^ e) (y * 2 ^ e) := by
  have hpow : (0 : ℚ) < 2 ^ e := by positivity
  have hdist : ∀ a : ℚ, |a * 2 ^ e - y * 2 ^ e| = |a - y| * 2 ^ e := by
    intro a
    rw [← sub_mul, abs_mul, abs_of_pos hpow]
  refine ⟨?_, fun f hf => ?_⟩
  · rcases hn.lt_or_eq with hlt | rfl
    · exact ⟨n, e, by rw [abs_of_nonneg (by omega)]; exact_mod_cast hlt, he, rfl⟩
    · refine ⟨2 ^ 52, e + 1, by norm_num, by omega, ?_⟩
      rw [zpow_add_one₀ two_ne_zero]
      norm_num
      ring
  · obtain ⟨m, i, hm, hi, rfl⟩ := hf
    obtain ⟨z, hz⟩ : ∃ z : ℚ, (m : ℚ) * 2 ^ i = z * 2 ^ e :=
      ⟨m * 2 ^ i / 2 ^ e, (div_mul_cancel₀ _ hpow.ne').symm⟩
    rw [hz, hdist, hdist]
    refine mul_le_mul_of_nonneg_right ?_ hpow.le
    rcases le_or_gt e i with hle | hlt
    · -- a value with no digit behind the place is an integer there
      obtain ⟨k, rfl⟩ : ∃ k : ℕ, i = e + k := ⟨(i - e).toNat, by omega⟩
      have hint : z = ((m * 2 ^ k : ℤ) : ℚ) := by
        rw [zpow_add₀ two_ne_zero, zpow_natCast] at hz
        refine mul_right_cancel₀ hpow.ne' ?_
        rw [← hz]
        push_cast
        ring
      rw [hint]
      exact hclosest _
    · -- a value with digits behind the place is below all that fill it
      have hlow : 2 ^ 52 ≤ y := hy.resolve_right (by omega)
      have hmq : |(m : ℚ)| < 2 ^ 53 := by exact_mod_cast hm
      have hhalf : (2 : ℚ) ^ e = 2 ^ (e - 1) * 2 := by
        rw [← zpow_add_one₀ two_ne_zero, sub_add_cancel]
      have hpow' : (2 : ℚ) ^ i ≤ 2 ^ (e - 1) := zpow_le_zpow_right₀ (by norm_num) (by omega)
      have hsmall : z * 2 ^ e < 2 ^ 52 * 2 ^ e := by
        rw [← hz]
        calc (m : ℚ) * 2 ^ i ≤ |(m : ℚ)| * 2 ^ i :=
              mul_le_mul_of_nonneg_right (le_abs_self _) (by positivity)
          _ < 2 ^ 53 * 2 ^ i := mul_lt_mul_of_pos_right hmq (by positivity)
          _ ≤ 2 ^ 53 * 2 ^ (e - 1) := mul_le_mul_of_nonneg_left hpow' (by norm_num)
          _ = 2 ^ 52 * 2 ^ e := by rw [hhalf]; ring
      have hz52 : z < 2 ^ 52 := lt_of_mul_lt_mul_right hsmall hpow.le
      refine (hclosest (2 ^ 52)).trans ?_
      rw [abs_of_nonpos (by push_cast; linarith), abs_of_nonpos (by linarith)]
      push_cast
      linarith

/-- A value that falls short of a representable one by a unit of the last
place is not rounded to it, unless digits are missing there. -/
theorem lt_of_shrunk {d : ℚ} (h : IsNearest r q) (hd : Representable d)
    (hnormal : 2 ^ 53 * tiny ≤ d) (hq : q ≤ d - d * 2 ^ (-53 : ℤ)) : r < d := by
  obtain ⟨m, e, hlow, hhigh, he, rfl⟩ := hd.exists_normal hnormal
  -- `t` is the missing unit over the leading digits
  obtain ⟨t, ht⟩ : ∃ t : ℚ, t = 2 ^ (e - 53) := ⟨_, rfl⟩
  have htpos : 0 < t := by rw [ht]; positivity
  have hunit : (2 : ℚ) ^ e = 2 ^ 53 * t ∧ (2 : ℚ) ^ (e - 1) = 2 ^ 52 * t := by
    rw [ht, zpow_sub₀ two_ne_zero, zpow_sub₀ two_ne_zero]
    constructor <;> norm_num <;> ring
  have hlowq : (2 : ℚ) ^ 52 ≤ m := by exact_mod_cast hlow
  have hshrunk : (m : ℚ) * 2 ^ e * 2 ^ (-53 : ℤ) = m * t := by
    rw [hunit.1]
    norm_num
    ring
  rw [hshrunk] at hq
  -- a representable value below is closer
  suffices hcloser : ∃ p, Representable p ∧ p < m * 2 ^ e ∧ |p - q| < m * 2 ^ e - q by
    obtain ⟨p, hp, hbelow, hdist⟩ := hcloser
    by_contra hge
    have hclosest := h.closest p hp
    rw [abs_of_nonneg (by linarith [abs_nonneg (p - q)] : 0 ≤ r - q)] at hclosest
    linarith
  by_cases hpower : m = 2 ^ 52
  · subst hpower
    refine ⟨((2 ^ 53 - 1 : ℤ) : ℚ) * 2 ^ (e - 1), ⟨_, e - 1, by norm_num, by omega, rfl⟩, ?_, ?_⟩
    · rw [hunit.1, hunit.2]
      push_cast
      linarith
    · rw [hunit.1] at hq ⊢
      rw [hunit.2, abs_of_nonneg]
      · push_cast
        linarith
      · push_cast at hq ⊢
        linarith
  · have hnext : (2 : ℚ) ^ 52 + 1 ≤ m := by
      have hlt : 2 ^ 52 + 1 ≤ m := by omega
      exact_mod_cast hlt
    have hstep : (2 ^ 52 + 1) * t ≤ m * t := mul_le_mul_of_nonneg_right hnext htpos.le
    refine ⟨((m - 1 : ℤ) : ℚ) * 2 ^ e, ⟨m - 1, e, ?_, by omega, rfl⟩, ?_, ?_⟩
    · rw [abs_of_nonneg (by omega)]
      omega
    · rw [hunit.1]
      push_cast
      linarith
    · rw [hunit.1] at hq ⊢
      rw [abs_lt]
      push_cast at hq ⊢
      constructor <;> linarith

end IsNearest

/-! ## Interpolation -/

section

variable {low high width step r : ℚ} {n : ℕ}

/-- The step from the lower bound: a part of the width. -/
theorem step_mem (hn : n < 2 ^ 53) (hle : low ≤ high) (hwidth : IsNearest width (high - low))
    (hstep : IsNearest step (width * (n / 2 ^ 53))) : 0 ≤ step ∧ step ≤ width := by
  have hwidth0 : 0 ≤ width := hwidth.le_of_le representable_zero (by linarith)
  have hn0 : (0 : ℚ) ≤ n / 2 ^ 53 := by positivity
  have hn1 : (n : ℚ) / 2 ^ 53 ≤ 1 := by
    rw [div_le_one (by positivity)]
    exact_mod_cast hn.le
  exact ⟨hstep.le_of_le representable_zero (mul_nonneg hwidth0 hn0),
    hstep.ge_of_ge hwidth.representable (mul_le_of_le_one_right hwidth0 hn1)⟩

/-- The step does not exceed the difference of the bounds, even where its
rounded width does. -/
theorem step_le (hlow : Representable low) (hhigh : Representable high) (hn : n < 2 ^ 53)
    (hle : low ≤ high) (hwidth : IsNearest width (high - low))
    (hstep : IsNearest step (width * (n / 2 ^ 53))) : step ≤ high - low := by
  obtain ⟨-, hstepWidth⟩ := step_mem hn hle hwidth hstep
  rcases le_or_gt width (high - low) with hdown | hup
  · exact hstepWidth.trans hdown
  · -- a width that was rounded up has all of its digits
    have hlarge : 2 ^ 53 * tiny ≤ high - low := by
      by_contra hsmall
      have hexact : Representable (high - low) := by
        refine hlow.sub_of_lt hhigh ?_
        rw [abs_of_nonneg (by linarith)]
        linarith
      exact absurd (hwidth.eq_of_representable hexact) hup.ne'
    have hshrunk : width * (n / 2 ^ 53) ≤ width - width * 2 ^ (-53 : ℤ) := by
      have hwidth0 : 0 ≤ width := by linarith
      have hnq : (n : ℚ) + 1 ≤ 2 ^ 53 := by exact_mod_cast hn
      have hpart : (n : ℚ) / 2 ^ 53 ≤ 1 - 2 ^ (-53 : ℤ) := by
        rw [div_le_iff₀ (by positivity)]
        norm_num at hnq ⊢
        linarith
      calc width * (n / 2 ^ 53) ≤ width * (1 - 2 ^ (-53 : ℤ)) :=
            mul_le_mul_of_nonneg_left hpart hwidth0
        _ = width - width * 2 ^ (-53 : ℤ) := by ring
    have hlt : step < width := hstep.lt_of_shrunk hwidth.representable (by linarith) hshrunk
    -- and as a value between the difference and the width it would be closer
    by_contra hbetween
    have hclosest := hwidth.closest step hstep.representable
    rw [abs_of_pos (by linarith), abs_of_pos (by linarith)] at hclosest
    linarith

/-- Interpolation between two bounds, rounded after each operation, stays
between them. -/
theorem interpolate_mem (hlow : Representable low) (hhigh : Representable high) (hn : n < 2 ^ 53)
    (hle : low ≤ high) (hwidth : IsNearest width (high - low))
    (hstep : IsNearest step (width * (n / 2 ^ 53))) (hr : IsNearest r (low + step)) :
    low ≤ r ∧ r ≤ high := by
  obtain ⟨hstep0, -⟩ := step_mem hn hle hwidth hstep
  have hstepLe := step_le hlow hhigh hn hle hwidth hstep
  exact ⟨hr.le_of_le hlow (by linarith), hr.ge_of_ge hhigh (by linarith)⟩

end

end Conformance.Number
