import Conformance.Number.Exact
import Conformance.Proofs.Number.Double

/-!
# Conformance.Proofs.Number.Exact

Where doubles and integers stand on the number line.

`point?` is the place of a double: its value, or one of two ends, and none for
what is not a number.  Doubles that compare as equal stand at one place
(`compare_eq_iff`), and an integer compares as equal to a double that stands at
it (`compareIntFloat_eq_iff`).  The latter reads the fields of the double off
its bits, as unpacking does (`ofFloat?_eq`).
-/

namespace Conformance.Number

open Float.Model Float.Model.UnpackedFloat

/-- A place on the number line. -/
inductive Point
  | finite (q : ℚ)
  | infinite (s : Sign)

namespace Point

/-- The place of an unpacked double, if it is a number. -/
def ofUnpacked? : UnpackedFloat → Option Point
  | .notANumber => none
  | .infinity s => some (infinite s)
  | u => some (finite (rational u))

/-- A finite number has the place of its value. -/
theorem ofUnpacked?_of_isFinite {u : UnpackedFloat} (h : u.isFinite) :
    ofUnpacked? u = some (finite (rational u)) := by
  cases u with
  | zero | finite => rfl
  | infinity | notANumber => cases h

end Point

/-- The place of a double, if it is a number. -/
def point? (x : Float) : Option Point := Point.ofUnpacked? x.toModel.unpack

/-- An infinity compares as equal to itself alone. -/
theorem compare_infinity_eq_iff (s : Sign) (y : UnpackedFloat) :
    UnpackedFloat.compare (.infinity s) y = some .eq ↔ y = .infinity s := by
  cases y with
  | infinity t => cases s <;> cases t <;> simp [UnpackedFloat.compare] <;> decide
  | notANumber | zero | finite => cases s <;> simp [UnpackedFloat.compare]

/-- What is finite does not compare as equal to what is not. -/
theorem compare_ne_eq_of_isFinite {x y : UnpackedFloat} (hx : x.isFinite) (hy : ¬ y.isFinite) :
    x.compare y ≠ some .eq := by
  cases y with
  | zero | finite => exact absurd rfl hy
  | notANumber => cases x <;> simp [UnpackedFloat.compare]
  | infinity t =>
    cases x with
    | notANumber | infinity => cases hx
    | zero | finite => cases t <;> simp [UnpackedFloat.compare]

/-- Two numbers compare as equal exactly if they have one place on the line. -/
theorem compare_unpacked_eq_iff {x y : UnpackedFloat} (hx : Canonical x) (hy : Canonical y) :
    x.compare y = some .eq ↔
      ∃ p, Point.ofUnpacked? x = some p ∧ Point.ofUnpacked? y = some p := by
  by_cases hxf : x.isFinite
  · rw [Point.ofUnpacked?_of_isFinite hxf]
    by_cases hyf : y.isFinite
    · rw [compare_eq_cmp hx hy hxf hyf, Point.ofUnpacked?_of_isFinite hyf, Option.some.injEq,
        cmp_eq_eq_iff]
      simp [eq_comm]
    · have hne := compare_ne_eq_of_isFinite hxf hyf
      cases y with
      | zero | finite => exact absurd rfl hyf
      | notANumber | infinity => simp [hne, Point.ofUnpacked?]
  · cases x with
    | zero | finite => exact absurd rfl hxf
    | notANumber => simp [UnpackedFloat.compare, Point.ofUnpacked?]
    | infinity s =>
      rw [compare_infinity_eq_iff]
      cases y <;> simp [Point.ofUnpacked?, eq_comm]

/-- Doubles compare as equal if they stand at one place. -/
theorem compare_eq_iff (x y : Float) :
    x.toModel.unpack.compare y.toModel.unpack = some .eq ↔
      ∃ p, point? x = some p ∧ point? y = some p :=
  compare_unpacked_eq_iff (canonical_toModel x) (canonical_toModel y)

/-- One double is below another if they compare so. -/
theorem lt_iff_compare (x y : Float) :
    x < y ↔ x.toModel.unpack.compare y.toModel.unpack = some .lt := by
  show decide ((x.toModel.unpack.compare y.toModel.unpack == some .lt) = true) = true ↔ _
  rw [decide_eq_true_iff, beq_iff_eq]

theorem beq_iff_compare (x y : Float) :
    (x == y) = true ↔ x.toModel.unpack.compare y.toModel.unpack = some .eq := by
  show (x.toModel.unpack.compare y.toModel.unpack == some .eq) = true ↔ _
  rw [beq_iff_eq]

/-- Of two doubles at one place neither is before the other. -/
theorem not_lt_of_compare {x y : Float}
    (h : x.toModel.unpack.compare y.toModel.unpack = some .eq) : ¬ x < y ∧ ¬ y < x := by
  have hback : y.toModel.unpack.compare x.toModel.unpack = some .eq := by
    obtain ⟨p, hx, hy⟩ := (compare_eq_iff x y).mp h
    exact (compare_eq_iff y x).mpr ⟨p, hy, hx⟩
  simp [lt_iff_compare, h, hback]

/-! ## Integers beside doubles -/

/-- The fields of a packed double, as numbers. -/
theorem toNat_fields (b : BitVec Format.binary64.numBits) :
    (unpackMantissa b).toNat = b.toNat % Nat.pow 2 52 ∧
      (unpackExponent b).toNat = b.toNat / Nat.pow 2 52 % Nat.pow 2 11 ∧
      (unpackSign b).toNat = b.toNat / Nat.pow 2 63 := by
  have hlt : b.toNat < 2 ^ 64 := b.isLt
  refine ⟨?_, ?_, ?_⟩
  · simp [unpackMantissa]
  · simp [unpackExponent, Nat.shiftRight_eq_div_pow]
  · simp [unpackSign, Nat.shiftRight_eq_div_pow]
    omega

/-- The mantissa and exponent of an unpacked double, if it is finite. -/
def Exact.ofUnpacked? : UnpackedFloat → Option Exact
  | .zero s => some ⟨s == .negative, 0, -1074⟩
  | .finite s m e _ => some ⟨s == .negative, m, e⟩
  | _ => none

/-- What is read off the bits is what unpacking finds. -/
theorem ofFloat?_eq (x : Float) : Exact.ofFloat? x = Exact.ofUnpacked? x.toModel.unpack := by
  obtain ⟨b, hb⟩ : ∃ b : BitVec Format.binary64.numBits, x.toModel.toBits.toBitVec = b := ⟨_, rfl⟩
  have hbits : x.toBits.toNat = b.toNat := by rw [← hb]; rfl
  have hunpack : x.toModel.unpack = UnpackedFloat.unpack Format.binary64 b := by rw [← hb]; rfl
  have hbias : (Format.binary64.exponentBias : ℤ) = 1023 := rfl
  obtain ⟨hmantissa, hexponent, hsign⟩ := toNat_fields b
  have hnegative : (b.toNat / Nat.pow 2 63 == 1) = (Sign.ofBitVec (unpackSign b) == .negative) := by
    rw [← hsign]
    generalize unpackSign b = s
    revert s
    decide
  rw [hunpack]
  unfold Exact.ofFloat? UnpackedFloat.unpack
  simp only [hbits, hnegative, ← hmantissa, ← hexponent]
  by_cases hmost : (unpackExponent b).toNat = 2047
  · have hvec : unpackExponent b = -1#_ := BitVec.eq_of_toNat_eq hmost
    rw [if_pos hmost, if_pos hvec]
    split <;> rfl
  · have hvec : unpackExponent b ≠ -1#_ := fun h => hmost (by rw [h]; rfl)
    rw [if_neg hmost, if_neg hvec]
    by_cases hleast : (unpackExponent b).toNat = 0
    · have hzero : unpackExponent b = 0#_ := BitVec.eq_of_toNat_eq hleast
      rw [if_pos hleast, if_pos hzero]
      split
      · next hm => simp [Exact.ofUnpacked?, hm]
      · simp [Exact.ofUnpacked?, hleast, hbias]
    · have hzero : unpackExponent b ≠ 0#_ := fun h => hleast (by rw [h]; rfl)
      rw [if_neg hleast, if_neg hzero]
      simp [Exact.ofUnpacked?, toNat_leading, hbias, Nat.add_comm]

/-- An integer compares with a mantissa and exponent as with the value they make. -/
theorem compareInt_eq_iff (n : ℤ) (e : Exact) :
    e.compareInt n = .eq ↔ (n : ℚ) = e.signed * 2 ^ e.exponent := by
  have hpos : (0 : ℚ) < 2 ^ e.places := by positivity
  have hshift : ((e.exponent + e.places).toNat : ℤ) = e.exponent + e.places := by
    unfold Exact.places
    omega
  have hscaled : ((e.scaled e.places : ℤ) : ℚ) = e.signed * 2 ^ e.exponent * 2 ^ e.places := by
    have hpow : ((Nat.pow 2 (e.exponent + e.places).toNat : ℕ) : ℚ) =
        2 ^ e.exponent * 2 ^ e.places := by
      rw [Nat.pow_eq, Nat.cast_pow, Nat.cast_ofNat, ← zpow_natCast, hshift,
        zpow_add₀ two_ne_zero, zpow_natCast]
    rw [Exact.scaled, Int.cast_mul, Int.cast_natCast, hpow, mul_assoc]
  unfold Exact.compareInt
  rw [compare_eq_iff_eq, ← Int.cast_inj (α := ℚ), hscaled, Int.cast_mul, Int.cast_natCast,
    Nat.pow_eq, Nat.cast_pow, Nat.cast_ofNat, mul_left_inj' hpos.ne']

/-- The value of an unpacked double is that of its mantissa and exponent. -/
theorem rational_of_ofUnpacked? {u : UnpackedFloat} {e : Exact} (h : Exact.ofUnpacked? u = some e) :
    u.isFinite ∧ rational u = e.signed * 2 ^ e.exponent := by
  cases u with
  | notANumber | infinity => cases h
  | zero s =>
    cases h
    simp [Exact.signed, UnpackedFloat.isFinite]
  | finite s m e hm =>
    cases h
    cases s <;> simp [Exact.signed, UnpackedFloat.isFinite, factor]

/-- An integer compares as equal to a double if that stands at it. -/
theorem compareIntFloat_eq_iff (n : ℤ) (x : Float) :
    compareIntFloat n x = some .eq ↔ point? x = some (.finite n) := by
  unfold compareIntFloat point?
  rw [ofFloat?_eq]
  cases h : Exact.ofUnpacked? x.toModel.unpack with
  | some e =>
    obtain ⟨hfinite, hvalue⟩ := rational_of_ofUnpacked? h
    rw [Point.ofUnpacked?_of_isFinite hfinite, hvalue]
    rw [Option.some.injEq, compareInt_eq_iff, Option.some.injEq, Point.finite.injEq, eq_comm]
  | none =>
    have hne : (if x.isNaN then none else if 0 < x then some .lt else some .gt) ≠
        some Ordering.eq := by
      split
      · simp
      · split <;> simp
    refine iff_of_false hne ?_
    cases hu : x.toModel.unpack with
    | zero | finite => simp [hu, Exact.ofUnpacked?] at h
    | notANumber | infinity => simp [Point.ofUnpacked?]

end Conformance.Number
