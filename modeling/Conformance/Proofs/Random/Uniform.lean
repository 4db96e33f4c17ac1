import Conformance.Proofs.Number.Double
import Conformance.Proofs.Random.Draw

/-!
# Conformance.Proofs.Random.Uniform

Where uniform doubles lie.

1. `unit` draws an integer below `2 ^ 53` and divides it by `2 ^ 53`; both
   steps are exact (`exists_of_runFrom_unit`).
2. `uniform low high` so interpolates between its bounds.  If their
   difference is finite, every draw is finite and between them; if it
   overflows or is not a number, no draw is finite
   (`exists_of_runFrom_uniform`).
-/

namespace Conformance

namespace Number

/-! ## Integers as doubles -/

/-- The numbers of a fraction are far from where doubles end. -/
theorem two_pow_lt_limit : (2 : ℚ) ^ 53 < limit := by
  rw [limit, ← zpow_natCast]
  exact zpow_lt_zpow_right₀ one_lt_two (by norm_num)

/-- A natural number becomes a double by way of a machine word if it is small. -/
theorem ofNat_eq {n : ℕ} (hn : n < 2 ^ 53) :
    Float.ofNat n = n.toUInt64.toFloat * Float.ofBits 0x3FF0000000000000 := by
  show Float.ofScientific n false 0 = _
  rw [Float.ofScientific, dif_pos ⟨hn, by decide⟩]
  rfl

theorem value_one : value (Float.ofBits 0x3FF0000000000000) = 1 := by
  show factor .positive * (((2 ^ 52 : ℕ) : ℚ) * 2 ^ (-52 : ℤ)) = 1
  norm_num [factor]

/-- What the fraction is divided by is a power of two, exactly. -/
theorem value_divisor : value 9007199254740992.0 = 2 ^ 53 := by
  show factor .positive * (((2 ^ 52 : ℕ) : ℚ) * 2 ^ (1 : ℤ)) = 2 ^ 53
  norm_num [factor]

/-- A fraction of at most 53 digits. -/
theorem representable_fraction {n : ℕ} (hn : n < 2 ^ 53) {e : ℤ} (he : -1074 ≤ e) :
    Representable (n * 2 ^ e) :=
  ⟨n, e, by rw [abs_of_nonneg (by omega)]; exact_mod_cast hn, he, rfl⟩

/-- Integers of at most 53 digits are exact. -/
theorem value_ofNat {n : ℕ} (hn : n < 2 ^ 53) :
    (Float.ofNat n).isFinite ∧ value (Float.ofNat n) = n := by
  have hrepresentable : Representable n := by
    simpa using representable_fraction hn (e := 0) (by norm_num)
  have hlimit : |(n : ℚ)| < limit := by
    rw [abs_of_nonneg n.cast_nonneg]
    exact (by exact_mod_cast hn : (n : ℚ) < 2 ^ 53).trans two_pow_lt_limit
  have hword : n.toUInt64.toNat = n := Nat.mod_eq_of_lt (by omega)
  have hcast := rounds_toFloat n.toUInt64
  rw [hword] at hcast
  obtain ⟨hfinite, hvalue⟩ := hcast.exact hrepresentable hlimit
  have hproduct := rounds_mul hfinite (y := Float.ofBits 0x3FF0000000000000) rfl
  rw [hvalue, value_one, mul_one, ← ofNat_eq hn] at hproduct
  exact hproduct.exact hrepresentable hlimit

/-- A fraction of the unit interval is exact. -/
theorem value_fraction {n : ℕ} (hn : n < 2 ^ 53) :
    (Float.ofNat n / 9007199254740992.0).isFinite ∧
      value (Float.ofNat n / 9007199254740992.0) = n / 2 ^ 53 := by
  obtain ⟨hfinite, hvalue⟩ := value_ofNat hn
  have hquotient := rounds_div hfinite (y := 9007199254740992.0) rfl
    (by rw [value_divisor]; norm_num)
  rw [hvalue, value_divisor] at hquotient
  have hrepresentable : Representable ((n : ℚ) / 2 ^ 53) := by
    have hfraction := representable_fraction hn (e := -53) (by norm_num)
    rwa [zpow_neg, zpow_ofNat, ← div_eq_mul_inv] at hfraction
  have hle : (n : ℚ) / 2 ^ 53 ≤ n := div_le_self n.cast_nonneg (by norm_num)
  have hnq : (n : ℚ) < 2 ^ 53 := by exact_mod_cast hn
  refine hquotient.exact hrepresentable ?_
  rw [abs_of_nonneg (by positivity)]
  exact (hle.trans_lt hnq).trans two_pow_lt_limit

/-! ## Interpolation of doubles -/

section

variable {low high u : Float} {n : ℕ}

/-- Interpolation between bounds whose difference is finite. -/
theorem interpolate_between (hn : n < 2 ^ 53) (hu : u.isFinite) (hvalue : value u = n / 2 ^ 53)
    (hle : ¬ high < low) (hwidth : (high - low).isFinite) :
    (low + (high - low) * u).isFinite ∧
      low ≤ low + (high - low) * u ∧ low + (high - low) * u ≤ high := by
  obtain ⟨hhigh, hlow⟩ := isFinite_of_isFinite_sub hwidth
  have hleValue : value low ≤ value high := not_lt.mp fun hlt => hle ((lt_iff hhigh hlow).mpr hlt)
  -- the width, the step and the sum, each rounded
  obtain ⟨width, hwidthNear, -, hwidthValue⟩ := rounds_sub hhigh hlow
  obtain ⟨step, hstepNear, hstepFinite, hstepValue⟩ := rounds_mul hwidth hu
  rw [hwidthValue hwidth, hvalue] at hstepNear
  obtain ⟨hstep0, hstepWidth⟩ := step_mem hn hleValue hwidthNear hstepNear
  have hstep : ((high - low) * u).isFinite := by
    have hlimit := abs_lt.mp (hwidthValue hwidth ▸ abs_value_lt (high - low))
    exact hstepFinite.mpr (abs_lt.mpr ⟨by linarith, by linarith⟩)
  obtain ⟨sum, hsumNear, hsumFinite, hsumValue⟩ := rounds_add hlow hstep
  rw [hstepValue hstep] at hsumNear
  obtain ⟨hge, hle⟩ := interpolate_mem (representable_value low) (representable_value high) hn
    hleValue hwidthNear hstepNear hsumNear
  have hsum : (low + (high - low) * u).isFinite := by
    have hlowLimit := abs_lt.mp (abs_value_lt low)
    have hhighLimit := abs_lt.mp (abs_value_lt high)
    exact hsumFinite.mpr (abs_lt.mpr ⟨by linarith, by linarith⟩)
  rw [le_iff hlow hsum, le_iff hsum hhigh, hsumValue hsum]
  exact ⟨hsum, hge, hle⟩

/-- Without a finite difference nothing is finite. -/
theorem isFinite_width_of_interpolate (h : (low + (high - low) * u).isFinite) :
    (high - low).isFinite :=
  (isFinite_of_isFinite_mul (isFinite_of_isFinite_add h).2).1

end

end Number

/-! ## Draws -/

namespace Draw

open Number

/-- What `unit` makes of two outputs. -/
theorem fraction_lt (a b : UInt32) : (a >>> 5).toNat * 67108864 + (b >>> 6).toNat < 2 ^ 53 := by
  have ha : (a >>> 5).toNat < 2 ^ 27 := by
    rw [UInt32.toNat_shiftRight, Nat.shiftRight_eq_div_pow]
    exact Nat.div_lt_of_lt_mul a.toNat_lt
  have hb : (b >>> 6).toNat < 2 ^ 26 := by
    rw [UInt32.toNat_shiftRight, Nat.shiftRight_eq_div_pow]
    exact Nat.div_lt_of_lt_mul b.toNat_lt
  omega

/-- A draw of the unit interval is a fraction of 53 digits. -/
theorem exists_of_runFrom_unit (t : Twister) :
    ∃ u t', unit.runFrom t = (.ok u, t') ∧
      u.isFinite ∧ ∃ n : ℕ, n < 2 ^ 53 ∧ value u = n / 2 ^ 53 := by
  have hn := fraction_lt t.next.1 t.next.2.next.1
  obtain ⟨hfinite, hvalue⟩ := value_fraction hn
  exact ⟨_, t.next.2.next.2, rfl, hfinite, _, hn, hvalue⟩

/-- A uniform draw is finite if and only if the difference of its bounds is,
and then it is between them. -/
theorem exists_of_runFrom_uniform {low high : Float} (hle : ¬ high < low) (t : Twister) :
    ∃ x t', (uniform low high).runFrom t = (.ok x, t') ∧
      (x.isFinite ↔ (high - low).isFinite) ∧ (x.isFinite → low ≤ x ∧ x ≤ high) := by
  obtain ⟨u, t', hrun, hu, n, hn, hvalue⟩ := exists_of_runFrom_unit t
  refine ⟨low + (high - low) * u, t', ?_, ?_, ?_⟩
  · rw [uniform, runFrom_bind, hrun]
    rfl
  · exact ⟨isFinite_width_of_interpolate,
      fun hwidth => (interpolate_between hn hu hvalue hle hwidth).1⟩
  · intro hfinite
    exact (interpolate_between hn hu hvalue hle (isFinite_width_of_interpolate hfinite)).2

end Draw

end Conformance
