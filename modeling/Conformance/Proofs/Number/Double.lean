import Conformance.Proofs.Number.Round

/-!
# Conformance.Proofs.Number.Double

Doubles as values.

A double is kept packed; an operation unpacks its operands, rounds, and
packs the result.  What is unpacked is in canonical form and its exponent
fits (`canonical_unpack`), and packing keeps what is in canonical form and
fits (`unpack_pack`).  What does not fit has a value of at least `limit`
(`fits_iff`) and becomes an infinity.

`Rounds x q` is what every operation on finite doubles comes to: `x` has a
value nearest to the exact result `q`, or it is not finite since that value
is beyond the limit.  Finite doubles are compared as their values (`lt_iff`,
`le_iff`), and an operation that takes anything else yields nothing finite.
-/

namespace Conformance.Number

open Float.Model Float.Model.UnpackedFloat

/-! ## Packing -/

/-- The exponent is not too large to be packed. -/
def Fits : UnpackedFloat → Prop
  | .finite _ _ e _ => e ≤ 971
  | _ => True

/-- The mantissa of a normal double with its leading digit. -/
theorem toNat_leading (mantissa : BitVec 52) :
    (1#1 ++ mantissa).toNat = 2 ^ 52 + mantissa.toNat := by
  rw [BitVec.toNat_append, ← Nat.shiftLeft_add_eq_or_of_lt mantissa.isLt]
  rfl

/-- What is unpacked is in canonical form and fits. -/
theorem canonical_unpack (b : BitVec Format.binary64.numBits) :
    Canonical (UnpackedFloat.unpack Format.binary64 b) ∧
      Fits (UnpackedFloat.unpack Format.binary64 b) := by
  have hbias : (Format.binary64.exponentBias : ℤ) = 1023 := rfl
  have hwidth : (Format.binary64.mantissaBitsWithoutImplicit : ℤ) = 52 := rfl
  have hmantissa : (unpackMantissa b).toNat < 2 ^ 52 := (unpackMantissa b).isLt
  have hexponent : (unpackExponent b).toNat < 2 ^ 11 := (unpackExponent b).isLt
  unfold UnpackedFloat.unpack
  simp only
  split
  · split <;> exact ⟨trivial, trivial⟩
  · next hinfinite =>
    have hmost : (unpackExponent b).toNat ≠ 2 ^ 11 - 1 := fun h =>
      hinfinite (BitVec.eq_of_toNat_eq h)
    split
    · next hzero =>
      split
      · exact ⟨trivial, trivial⟩
      · have hleast : (unpackExponent b).toNat = 0 := by rw [hzero]; rfl
        simp only [Canonical, Fits, hbias, hwidth, hleast]
        omega
    · next hnormal =>
      have hleast : (unpackExponent b).toNat ≠ 0 := fun h => hnormal (BitVec.eq_of_toNat_eq h)
      have hleading : (1#1 ++ unpackMantissa b).toNat = 2 ^ 52 + (unpackMantissa b).toNat :=
        toNat_leading (unpackMantissa b)
      simp only [Canonical, Fits, hbias, hwidth, hleading]
      omega

/-- Unpacking a normal double. -/
theorem unpack_normal (s : Sign) {exponent : BitVec 11} {mantissa : BitVec 52}
    (hmost : exponent.toNat ≠ 2 ^ 11 - 1) (hleast : exponent.toNat ≠ 0) :
    UnpackedFloat.unpack Format.binary64 (packComponents Format.binary64 s exponent mantissa) =
      .finite s (2 ^ 52 + mantissa.toNat) (exponent.toNat - 1075) (by omega) := by
  have hinfinite : exponent ≠ -1#11 := fun h => hmost (congrArg BitVec.toNat h)
  have hzero : exponent ≠ 0#11 := fun h => hleast (congrArg BitVec.toNat h)
  unfold UnpackedFloat.unpack
  simp only [unpackExponent_packComponents, unpackMantissa_packComponents,
    unpackSign_packComponents, Sign.ofBitVec_toBitVec]
  rw [if_neg hinfinite, if_neg hzero]
  congr 1
  exact toNat_leading mantissa

/-- Unpacking a double of the smallest exponent. -/
theorem unpack_subnormal (s : Sign) {mantissa : BitVec 52} (hm : 0 < mantissa.toNat) :
    UnpackedFloat.unpack Format.binary64 (packComponents Format.binary64 s 0#11 mantissa) =
      .finite s mantissa.toNat (-1074) hm := by
  have hzero : mantissa ≠ 0#52 := fun h => hm.ne' (congrArg BitVec.toNat h)
  unfold UnpackedFloat.unpack
  simp only [unpackExponent_packComponents, unpackMantissa_packComponents,
    unpackSign_packComponents, Sign.ofBitVec_toBitVec]
  rw [if_neg (by decide), if_pos trivial, dif_neg hzero]
  rfl

/-- The exponent as it is packed. -/
theorem biased_eq {e : ℤ} {k : ℕ} (hk : e + 1075 = k) :
    (e + Format.binary64.exponentBias + Format.binary64.mantissaBitsWithoutImplicit).toNat = k := by
  have hbias : (Format.binary64.exponentBias : ℤ) = 1023 := rfl
  have hwidth : (Format.binary64.mantissaBitsWithoutImplicit : ℤ) = 52 := rfl
  omega

/-- A mantissa with all of its digits is packed without the leading one. -/
theorem pack_normal (s : Sign) {m k : ℕ} {e : ℤ} (hm : 0 < m) (hlow : 2 ^ 52 ≤ m)
    (hhigh : m < 2 ^ 53) (hk : e + 1075 = k) (hmost : k < 2 ^ 11 - 1) :
    UnpackedFloat.pack Format.binary64 (.finite s m e hm) =
      packComponents Format.binary64 s (BitVec.ofNat 11 k) (BitVec.ofNat 52 m) := by
  have hover : ¬ 2 ^ Format.binary64.exponentBits ≤ k + 1 := by
    show ¬ 2 ^ 11 ≤ _
    omega
  have hlog : m.log2 + 1 = Format.binary64.mantissaBits := by
    have h52 := (Nat.le_log2 hm.ne').mpr hlow
    have h53 := (Nat.log2_lt hm.ne').mpr hhigh
    show m.log2 + 1 = 53
    omega
  rw [UnpackedFloat.pack]
  simp only [biased_eq hk]
  rw [if_neg hover, if_pos hlog]

/-- A mantissa with a digit less is packed as it is. -/
theorem pack_subnormal (s : Sign) {m : ℕ} (hm : 0 < m) (hhigh : m < 2 ^ 52) :
    UnpackedFloat.pack Format.binary64 (.finite s m (-1074) hm) =
      packComponents Format.binary64 s 0#11 (BitVec.ofNat 52 m) := by
  have hlog : m.log2 + 1 ≠ Format.binary64.mantissaBits := by
    have h52 := (Nat.log2_lt hm.ne').mpr hhigh
    show m.log2 + 1 ≠ 53
    omega
  rw [UnpackedFloat.pack]
  simp only [biased_eq (show (-1074 : ℤ) + 1075 = (1 : ℕ) from rfl)]
  rw [if_neg (by decide), if_neg hlog]

/-- An exponent that is too large makes an infinity. -/
theorem pack_over (s : Sign) {m k : ℕ} {e : ℤ} (hm : 0 < m) (hk : e + 1075 = k)
    (hmost : 2 ^ 11 - 1 ≤ k) :
    UnpackedFloat.pack Format.binary64 (.finite s m e hm) =
      packedInfinity Format.binary64 s := by
  have hover : 2 ^ Format.binary64.exponentBits ≤ k + 1 := by
    show 2 ^ 11 ≤ _
    omega
  rw [UnpackedFloat.pack]
  simp only [biased_eq hk]
  rw [if_pos hover]

/-- What is in canonical form and fits is packed and unpacked again. -/
theorem unpack_pack {u : UnpackedFloat} (hu : Canonical u) (hfits : Fits u) :
    UnpackedFloat.unpack Format.binary64 (UnpackedFloat.pack Format.binary64 u) = u := by
  cases u with
  | notANumber => rfl
  | infinity s => cases s <;> rfl
  | zero s => cases s <;> rfl
  | finite s m e hm =>
    obtain ⟨hhigh, hlow, hfull⟩ := hu
    replace hfits : e ≤ 971 := hfits
    by_cases hnormal : 2 ^ 52 ≤ m
    · obtain ⟨k, hk⟩ : ∃ k : ℕ, e + 1075 = k := ⟨(e + 1075).toNat, by omega⟩
      have hexponent : (BitVec.ofNat 11 k).toNat = k := by
        rw [BitVec.toNat_ofNat, Nat.mod_eq_of_lt (by omega)]
      have hmantissa : 2 ^ 52 + (BitVec.ofNat 52 m).toNat = m := by
        rw [BitVec.toNat_ofNat]
        omega
      rw [pack_normal s hm hnormal hhigh hk (by omega), unpack_normal s (by omega) (by omega)]
      congr 1
      omega
    · replace hnormal := not_le.mp hnormal
      obtain rfl : e = -1074 := hfull.resolve_left (by omega)
      have hmantissa : (BitVec.ofNat 52 m).toNat = m := by
        rw [BitVec.toNat_ofNat, Nat.mod_eq_of_lt hnormal]
      rw [pack_subnormal s hm hnormal, unpack_subnormal s (by omega)]
      congr 1

/-- An infinity is not finite, whatever its sign. -/
theorem isFinite_infinity (s : Sign) :
    (UnpackedFloat.unpack Format.binary64 (packedInfinity Format.binary64 s)).isFinite = false := by
  cases s <;> rfl

/-- What does not fit is not finite once it is packed. -/
theorem not_isFinite_of_not_fits {u : UnpackedFloat} (hfits : ¬ Fits u) :
    (UnpackedFloat.unpack Format.binary64 (UnpackedFloat.pack Format.binary64 u)).isFinite =
      false := by
  cases u with
  | notANumber | infinity | zero => exact absurd trivial hfits
  | finite s m e hm =>
    have hlarge : 971 < e := not_le.mp hfits
    obtain ⟨k, hk⟩ : ∃ k : ℕ, e + 1075 = k := ⟨(e + 1075).toNat, by omega⟩
    rw [pack_over s hm hk (by omega)]
    exact isFinite_infinity s

/-- Packing makes nothing finite. -/
theorem isFinite_of_unpack_pack {u : UnpackedFloat}
    (h : (UnpackedFloat.unpack Format.binary64 (UnpackedFloat.pack Format.binary64 u)).isFinite) :
    u.isFinite := by
  cases u with
  | notANumber => exact h
  | infinity s => exact absurd h (Bool.eq_false_iff.mp (isFinite_infinity s))
  | zero | finite => rfl

/-! ## Range -/

/-- What is too large for a double. -/
def limit : ℚ := 2 ^ (1024 : ℤ)

theorem limit_pos : 0 < limit := by
  unfold limit
  positivity

/-- Without its sign a finite number is its mantissa at its exponent. -/
theorem abs_rational_finite (s : Sign) {m : ℕ} {e : ℤ} (hm : 0 < m) :
    |rational (.finite s m e hm)| = m * 2 ^ e := by
  have hpos : (0 : ℚ) ≤ m * 2 ^ e := by positivity
  cases s with
  | positive => rw [rational_finite, factor, one_mul, abs_of_nonneg hpos]
  | negative => rw [rational_finite, factor, neg_one_mul, abs_neg, abs_of_nonneg hpos]

/-- What is in canonical form fits if and only if its value is below the limit. -/
theorem fits_iff {u : UnpackedFloat} (hu : Canonical u) : Fits u ↔ |rational u| < limit := by
  cases u with
  | notANumber | infinity | zero => exact ⟨fun _ => by simpa [rational] using limit_pos, fun _ => trivial⟩
  | finite s m e hm =>
    obtain ⟨hhigh, -, hfull⟩ := hu
    have hlimit : limit = 2 ^ 53 * 2 ^ (971 : ℤ) := by
      rw [limit, two_zpow_eq 1024 53, mul_comm]
      norm_num
    have hhighq : (m : ℚ) < 2 ^ 53 := by exact_mod_cast hhigh
    rw [abs_rational_finite, hlimit]
    constructor
    · intro hfits
      exact mul_lt_mul hhighq (zpow_le_zpow_right₀ one_le_two hfits) (by positivity) (by norm_num)
    · intro hlt
      by_contra hfits
      replace hfits : 971 < e := not_le.mp hfits
      have hlow : (2 : ℚ) ^ 52 ≤ m := by exact_mod_cast hfull.resolve_right (by omega)
      have hpow : (2 : ℚ) ^ (971 : ℤ) * 2 ≤ 2 ^ e := by
        rw [← zpow_add_one₀ two_ne_zero]
        exact zpow_le_zpow_right₀ one_le_two hfits
      have hge : (2 : ℚ) ^ 52 * (2 ^ (971 : ℤ) * 2) ≤ m * 2 ^ e :=
        mul_le_mul hlow hpow (by positivity) (by positivity)
      linarith

/-! ## Comparison -/

/-- Of two mantissas in canonical form the one of the larger exponent is larger. -/
theorem lt_of_exponent_lt {m n : ℕ} {e i : ℤ} (hm : m < 2 ^ 53) (he : -1074 ≤ e)
    (hn : 2 ^ 52 ≤ n ∨ i = -1074) (hlt : e < i) : (m : ℚ) * 2 ^ e < n * 2 ^ i := by
  have hmq : (m : ℚ) < 2 ^ 53 := by exact_mod_cast hm
  have hnq : (2 : ℚ) ^ 52 ≤ n := by exact_mod_cast hn.resolve_right (by omega)
  have hpow : (2 : ℚ) ^ e * 2 ≤ 2 ^ i := by
    rw [← zpow_add_one₀ two_ne_zero]
    exact zpow_le_zpow_right₀ one_le_two hlt
  calc (m : ℚ) * 2 ^ e < 2 ^ 53 * 2 ^ e := mul_lt_mul_of_pos_right hmq (by positivity)
    _ = 2 ^ 52 * (2 ^ e * 2) := by ring
    _ ≤ n * 2 ^ i := mul_le_mul hnq hpow (by positivity) (by positivity)

/-- Mantissas in canonical form are compared by their exponents first. -/
theorem compare_mantissas {m n : ℕ} {e i : ℤ} {s t : Sign} {hm : 0 < m} {hn : 0 < n}
    (hx : Canonical (.finite s m e hm)) (hy : Canonical (.finite t n i hn)) :
    (compare e i).then (compare m n) = cmp ((m : ℚ) * 2 ^ e) (n * 2 ^ i) := by
  obtain ⟨hmHigh, he, hmFull⟩ := hx
  obtain ⟨hnHigh, hi, hnFull⟩ := hy
  rcases lt_trichotomy e i with hlt | rfl | hgt
  · rw [Int.compare_eq_lt.mpr hlt, (cmp_eq_lt_iff _ _).mpr (lt_of_exponent_lt hmHigh he hnFull hlt)]
    rfl
  · have hpow : (0 : ℚ) < 2 ^ e := by positivity
    rw [Int.compare_eq_eq.mpr rfl]
    rcases lt_trichotomy m n with hlt | rfl | hgt
    · have hltq : (m : ℚ) * 2 ^ e < n * 2 ^ e :=
        mul_lt_mul_of_pos_right (by exact_mod_cast hlt) hpow
      rw [Nat.compare_eq_lt.mpr hlt, (cmp_eq_lt_iff _ _).mpr hltq]
      rfl
    · rw [Nat.compare_eq_eq.mpr rfl, cmp_self_eq_eq]
      rfl
    · have hgtq : (n : ℚ) * 2 ^ e < m * 2 ^ e :=
        mul_lt_mul_of_pos_right (by exact_mod_cast hgt) hpow
      rw [Nat.compare_eq_gt.mpr hgt, (cmp_eq_gt_iff _ _).mpr hgtq]
      rfl
  · rw [Int.compare_eq_gt.mpr hgt, (cmp_eq_gt_iff _ _).mpr (lt_of_exponent_lt hnHigh hi hmFull hgt)]
    rfl

theorem cmp_neg_neg (a b : ℚ) : cmp (-a) (-b) = (cmp a b).swap := by
  rw [cmp_swap]
  rcases lt_trichotomy a b with hlt | rfl | hgt
  · rw [(cmp_eq_gt_iff _ _).mpr (neg_lt_neg hlt), (cmp_eq_gt_iff _ _).mpr hlt]
  · rw [cmp_self_eq_eq, cmp_self_eq_eq]
  · rw [(cmp_eq_lt_iff _ _).mpr (neg_lt_neg hgt), (cmp_eq_lt_iff _ _).mpr hgt]

theorem rational_positive {m : ℕ} (e : ℤ) (hm : 0 < m) :
    0 < rational (.finite .positive m e hm) := by
  rw [rational_finite, factor, one_mul]
  positivity

theorem rational_negative {m : ℕ} (e : ℤ) (hm : 0 < m) :
    rational (.finite .negative m e hm) < 0 := by
  rw [rational_finite, factor, neg_one_mul, neg_lt_zero]
  positivity

/-- Doubles in canonical form are compared as their values. -/
theorem compare_eq_cmp {x y : UnpackedFloat} (hx : Canonical x) (hy : Canonical y)
    (hxf : x.isFinite) (hyf : y.isFinite) :
    x.compare y = some (cmp (rational x) (rational y)) := by
  have hlt : ∀ {a b : ℚ}, a < b → some Ordering.lt = some (cmp a b) := fun h =>
    congrArg some ((cmp_eq_lt_iff _ _).mpr h).symm
  have hgt : ∀ {a b : ℚ}, b < a → some Ordering.gt = some (cmp a b) := fun h =>
    congrArg some ((cmp_eq_gt_iff _ _).mpr h).symm
  cases x with
  | infinity | notANumber => cases hxf
  | zero s =>
    cases y with
    | infinity | notANumber => cases hyf
    | zero t => exact congrArg some (cmp_self_eq_eq (0 : ℚ)).symm
    | finite t n i hn =>
      cases t with
      | positive => exact hlt (rational_positive i hn)
      | negative => exact hgt (rational_negative i hn)
  | finite s m e hm =>
    cases y with
    | infinity | notANumber => cases hyf
    | zero t =>
      cases s with
      | positive => exact hgt (rational_positive e hm)
      | negative => exact hlt (rational_negative e hm)
    | finite t n i hn =>
      have hmantissas := compare_mantissas hx hy
      cases s with
      | positive =>
        cases t with
        | positive =>
          rw [rational_finite, rational_finite, factor, one_mul, one_mul, ← hmantissas]
          rfl
        | negative => exact hgt ((rational_negative i hn).trans (rational_positive e hm))
      | negative =>
        cases t with
        | positive => exact hlt ((rational_negative e hm).trans (rational_positive i hn))
        | negative =>
          rw [rational_finite, rational_finite, factor, neg_one_mul, neg_one_mul, cmp_neg_neg,
            ← hmantissas]
          rfl

/-! ## Operations on what is not finite -/

section

variable {x y : UnpackedFloat}

/-- A sum is finite only if both summands are. -/
theorem isFinite_of_add (h : (UnpackedFloat.add Format.binary64 x y).isFinite) :
    x.isFinite ∧ y.isFinite := by
  cases x with
  | notANumber => cases y <;> cases h
  | infinity s =>
    cases y with
    | infinity t =>
      rw [UnpackedFloat.add] at h
      split at h <;> cases h
    | notANumber | zero | finite => cases h
  | zero | finite =>
    cases y with
    | infinity | notANumber => cases h
    | zero | finite => exact ⟨rfl, rfl⟩

theorem isFinite_of_sub (h : (UnpackedFloat.sub Format.binary64 x y).isFinite) :
    x.isFinite ∧ y.isFinite := by
  rw [sub_eq_add] at h
  rw [← isFinite_neg y]
  exact isFinite_of_add h

theorem isFinite_of_mul (h : (UnpackedFloat.mul Format.binary64 x y).isFinite) :
    x.isFinite ∧ y.isFinite := by
  cases x with
  | notANumber | infinity => cases y <;> cases h
  | zero | finite =>
    cases y with
    | infinity | notANumber => cases h
    | zero | finite => exact ⟨rfl, rfl⟩

end

/-! ## Values -/

/-- The value of a double, zero for one that has none. -/
def value (x : Float) : ℚ := rational x.toModel.unpack

/-- Every double unpacks to canonical form. -/
theorem canonical_toModel (x : Float) : Canonical x.toModel.unpack := (canonical_unpack _).1

/-- The value of a double can be represented. -/
theorem representable_value (x : Float) : Representable (value x) :=
  representable_rational (canonical_toModel x)

/-- No double is as large as the limit. -/
theorem abs_value_lt (x : Float) : |value x| < limit :=
  (fits_iff (canonical_toModel x)).mp (canonical_unpack _).2

/-- Finite doubles are compared as their values. -/
theorem compare_toModel {x y : Float} (hx : x.isFinite) (hy : y.isFinite) :
    x.toModel.unpack.compare y.toModel.unpack = some (cmp (value x) (value y)) :=
  compare_eq_cmp (canonical_toModel x) (canonical_toModel y) hx hy

/-- One finite double is below another if its value is. -/
theorem lt_iff {x y : Float} (hx : x.isFinite) (hy : y.isFinite) : x < y ↔ value x < value y := by
  show decide ((x.toModel.unpack.compare y.toModel.unpack == some .lt) = true) = true ↔ _
  rw [compare_toModel hx hy, decide_eq_true_iff, beq_iff_eq, Option.some.injEq, cmp_eq_lt_iff]

theorem le_iff {x y : Float} (hx : x.isFinite) (hy : y.isFinite) : x ≤ y ↔ value x ≤ value y := by
  show decide (((x.toModel.unpack.compare y.toModel.unpack).any (·.isLE)) = true) = true ↔ _
  rw [compare_toModel hx hy, decide_eq_true_iff, Option.any_some]
  rcases lt_trichotomy (value x) (value y) with hlt | heq | hgt
  · rw [(cmp_eq_lt_iff _ _).mpr hlt]
    exact iff_of_true rfl hlt.le
  · rw [heq, cmp_self_eq_eq]
    exact iff_of_true rfl le_rfl
  · rw [(cmp_eq_gt_iff _ _).mpr hgt]
    exact iff_of_false Bool.false_ne_true hgt.not_ge

/-- What an operation on doubles comes to whose exact result is `q`. -/
def Rounds (x : Float) (q : ℚ) : Prop :=
  ∃ r, IsNearest r q ∧ (x.isFinite ↔ |r| < limit) ∧ (x.isFinite → value x = r)

/-- To make a double is to pack, and to look at it is to unpack. -/
theorem unpack_ofModel (u : UnpackedFloat) :
    (Float.ofModel (.pack u)).toModel.unpack =
      UnpackedFloat.unpack Format.binary64 (UnpackedFloat.pack Format.binary64 u) :=
  rfl

/-- What is rounded before it is packed is rounded after. -/
theorem Rounded.rounds {u : UnpackedFloat} {q : ℚ} (h : Rounded u q) :
    Rounds (.ofModel (.pack u)) q := by
  refine ⟨rational u, h.nearest, ?_⟩
  unfold Float.isFinite Float.Model.isFinite value
  rw [unpack_ofModel, ← fits_iff h.canonical]
  by_cases hfits : Fits u
  · rw [unpack_pack h.canonical hfits]
    exact ⟨iff_of_true h.finite hfits, fun _ => rfl⟩
  · rw [not_isFinite_of_not_fits hfits]
    exact ⟨iff_of_false Bool.false_ne_true hfits, fun h => absurd h Bool.false_ne_true⟩

section

variable {x y : Float} {q : ℚ}

/-- What is representable and below the limit is exact. -/
theorem Rounds.exact (h : Rounds x q) (hq : Representable q) (hlt : |q| < limit) :
    x.isFinite ∧ value x = q := by
  obtain ⟨r, hr, hfinite, hvalue⟩ := h
  obtain rfl := hr.eq_of_representable hq
  exact ⟨hfinite.mpr hlt, hvalue (hfinite.mpr hlt)⟩

/-- A sum of doubles is finite only if both are. -/
theorem isFinite_of_isFinite_add (h : (x + y).isFinite) : x.isFinite ∧ y.isFinite :=
  isFinite_of_add (isFinite_of_unpack_pack h)

theorem isFinite_of_isFinite_sub (h : (x - y).isFinite) : x.isFinite ∧ y.isFinite :=
  isFinite_of_sub (isFinite_of_unpack_pack h)

theorem isFinite_of_isFinite_mul (h : (x * y).isFinite) : x.isFinite ∧ y.isFinite :=
  isFinite_of_mul (isFinite_of_unpack_pack h)

/-- A sum is rounded to a nearest value. -/
theorem rounds_add (hx : x.isFinite) (hy : y.isFinite) : Rounds (x + y) (value x + value y) :=
  (rounded_add (canonical_toModel x) (canonical_toModel y) hx hy).rounds

theorem rounds_sub (hx : x.isFinite) (hy : y.isFinite) : Rounds (x - y) (value x - value y) :=
  (rounded_sub (canonical_toModel x) (canonical_toModel y) hx hy).rounds

theorem rounds_mul (hx : x.isFinite) (hy : y.isFinite) : Rounds (x * y) (value x * value y) :=
  (rounded_mul (canonical_toModel x) (canonical_toModel y) hx hy).rounds

theorem rounds_div (hx : x.isFinite) (hy : y.isFinite) (hy0 : value y ≠ 0) :
    Rounds (x / y) (value x / value y) :=
  (rounded_div hx hy hy0).rounds

/-- An integer that is made a double is rounded, too. -/
theorem rounds_toFloat (n : UInt64) : Rounds n.toFloat n.toNat := by
  have hrounded := (rounded_normalize (n.toNat : ℤ) 0 .positive).rounds
  rw [zpow_zero, mul_one, Int.cast_natCast] at hrounded
  exact hrounded

end

end Conformance.Number
