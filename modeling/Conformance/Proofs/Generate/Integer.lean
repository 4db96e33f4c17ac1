import Conformance.Proofs.Descriptor.WellFormed
import Conformance.Proofs.Random.Reachable
import Conformance.Validate

/-!
# Conformance.Proofs.Generate.Integer

Which integers are drawn.

An integer is drawn as an offset from the low end of its range, with as many
bits as the width of the range has.  The widest range is that of all integers
of 64 bits, whose width takes one bit more (`log2_width_le`).
-/

namespace Conformance.Descriptor

theorem generate_integer (s : Sampling) (name : Option String) (kind : IntegerKind)
    (low high : Int) :
    generate s (integer name kind low high) =
      Draw.between s.patience low high >>= fun i => pure (.int i) := rfl

/-- The integers that conform are those of the range. -/
theorem validate_int_iff {name : Option String} {kind : IntegerKind} {low high i : Int} :
    (integer name kind low high).validate (.int i) = none ↔ low ≤ i ∧ i ≤ high := by
  rw [validate]
  split
  · next hi => exact iff_of_true rfl hi
  · next hi => exact iff_of_false nofun hi

/-- The number of integers in a range of any kind has at most 65 bits. -/
theorem log2_width_le {name : Option String} {kind : IntegerKind} {low high : Int}
    (hd : (integer name kind low high).WellFormed) : (high - low + 1).toNat.log2 ≤ 64 := by
  obtain ⟨-, hlow, hle, hhigh⟩ := hd
  have hkind : kind.high - kind.low + 1 ≤ 2 ^ 64 := by
    cases kind <;> decide
  have hwidth : (high - low + 1).toNat < 2 ^ 65 := by omega
  exact Nat.le_of_lt_succ ((Nat.log2_lt (by omega)).mpr hwidth)

/-- An integer conforms to a range of an integer kind if and only if it is
drawn from some state of the source. -/
theorem generate_integer_iff (s : Sampling) {name : Option String} {kind : IntegerKind}
    {low high : Int} (hd : (integer name kind low high).WellFormed) (i : Int) :
    (integer name kind low high).validate (.int i) = none ↔
      ∃ source after, source.Proper ∧
        (generate s (integer name kind low high)).runFrom source = (.ok (.int i), after) := by
  have hwidth : (high - low + 1).toNat.log2 < 19936 :=
    Nat.lt_of_le_of_lt (log2_width_le hd) (by decide)
  rw [validate_int_iff, ← Draw.exists_runFrom_between_iff s.patience hwidth, generate_integer]
  refine exists_congr fun source => exists_congr fun after => and_congr_right fun _ => ?_
  rw [Draw.runFrom_bind_ok]
  constructor
  · intro h
    exact ⟨i, after, h, rfl⟩
  · rintro ⟨j, after', h, hj⟩
    obtain ⟨rfl, rfl⟩ : j = i ∧ after' = after := by simpa using hj
    exact h

/-- The largest integer is drawn from the full range, and no larger one. -/
theorem generate_integer_iff_full :
    (ofInteger .int).WellFormed ∧
      (∃ source after, source.Proper ∧ (generate {} (ofInteger .int)).runFrom source =
        (.ok (.int 9223372036854775807), after)) ∧
      ¬ ∃ source after, source.Proper ∧ (generate {} (ofInteger .int)).runFrom source =
        (.ok (.int 9223372036854775808), after) := by
  have hd : (ofInteger .int).WellFormed := ⟨nofun, by decide, by decide, by decide⟩
  refine ⟨hd, (generate_integer_iff {} hd _).mp rfl, fun h => ?_⟩
  cases (generate_integer_iff {} hd _).mpr h

end Conformance.Descriptor
