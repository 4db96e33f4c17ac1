import Conformance.Generate
import Conformance.Proofs.Random.Uniform
import Conformance.Settings.Section

/-!
# Conformance.Proofs.Generate.Number

Numbers drawn under settings that are accepted.

A section of settings is accepted if its bounds are not in the wrong order.
That says nothing of how far they are apart, nor that they are finite, while
a number that is not finite does not conform.  So the draws of a section
conform, and are between its bounds, if and only if the difference of the
bounds is finite (`generate_number_iff`); else none of them does.
-/

namespace Conformance

namespace Sampling

variable {place : List Value} {s s' : Sampling}

/-- Bounds are accepted unless the upper one is below the lower, and stay as they are. -/
theorem checkBounds_ok (h : checkBounds place s = .ok s') : s = s' ∧ ¬ s.numberMax < s.numberMin := by
  by_cases hlt : s.numberMax < s.numberMin
  · have hrefused := (if_pos hlt).symm.trans h
    cases hrefused
  · have haccepted := (if_neg hlt).symm.trans h
    cases haccepted
    exact ⟨rfl, hlt⟩

/-- Accepted bounds are not in the wrong order. -/
theorem not_lt_of_read {entries : List (Value × Value)} (h : read place entries = .ok s) :
    ¬ s.numberMax < s.numberMin := by
  unfold read Settings.Audited.andThen at h
  split at h
  · obtain ⟨rfl, hle⟩ := checkBounds_ok h
    exact hle
  · cases h

/-- A section with nothing but the bounds of numbers. -/
def boundEntries (low high : Float) : List (Value × Value) :=
  [(.str "number_min", .float low), (.str "number_max", .float high)]

/-- Any two doubles are accepted that are not in the wrong order. -/
theorem read_boundEntries {low high : Float} (hle : ¬ high < low) (place : List Value) :
    read place (boundEntries low high) = .ok { numberMin := low, numberMax := high } :=
  if_neg hle

end Sampling

namespace Descriptor

/-- A double conforms exactly if it is finite. -/
theorem validate_float_iff (name : Option String) (x : Float) :
    (number name).validate (.float x) = none ↔ x.isFinite := by
  rw [validate]
  split
  · next hx => exact iff_of_true rfl hx
  · next hx => exact iff_of_false nofun hx

theorem generate_number (s : Sampling) (name : Option String) :
    generate s (number name) = Draw.uniform s.numberMin s.numberMax >>= fun x => pure (.float x) :=
  rfl

/-- A number drawn under accepted settings is finite, between the bounds and
conforms, if and only if the difference of the bounds is finite. -/
theorem generate_number_iff {place : List Value} {entries : List (Value × Value)} {s : Sampling}
    (haccepted : Sampling.read place entries = .ok s) (name : Option String) (source : Twister) :
    ∃ x after, (generate s (number name)).runFrom source = (.ok (.float x), after) ∧
      ((x.isFinite ∧ s.numberMin ≤ x ∧ x ≤ s.numberMax) ↔ (s.numberMax - s.numberMin).isFinite) ∧
      ((number name).validate (.float x) = none ↔ (s.numberMax - s.numberMin).isFinite) := by
  obtain ⟨x, after, hrun, hfinite, hbetween⟩ :=
    Draw.exists_of_runFrom_uniform (Sampling.not_lt_of_read haccepted) source
  refine ⟨x, after, ?_, ?_, ?_⟩
  · rw [generate_number, Draw.runFrom_bind, hrun]
    rfl
  · rw [← hfinite]
    exact ⟨And.left, fun hx => ⟨hx, hbetween hx⟩⟩
  · rw [validate_float_iff, hfinite]

theorem generate_number_iff_unit :
    let s : Sampling := { numberMin := -1.0, numberMax := 1.0 }
    Sampling.read [] (Sampling.boundEntries (-1.0) 1.0) = .ok s ∧
      ∃ x after, (generate s (number none)).runFrom (.ofSeed 4) = (.ok (.float x), after) ∧
        (x.isFinite ∧ -1.0 ≤ x ∧ x ≤ 1.0) ∧ (number none).validate (.float x) = none := by
  intro s
  have haccepted : Sampling.read [] (Sampling.boundEntries (-1.0) 1.0) = .ok s :=
    Sampling.read_boundEntries (by decide) []
  have hwidth : (s.numberMax - s.numberMin).isFinite := by decide
  obtain ⟨x, after, hrun, hbetween, hconforms⟩ := generate_number_iff haccepted none (.ofSeed 4)
  exact ⟨haccepted, x, after, hrun, hbetween.mpr hwidth, hconforms.mpr hwidth⟩

/-- Bounds that are both finite and in order, between which no number is
drawn that conforms: their difference overflows. -/
theorem generate_number_far :
    let s : Sampling := { numberMin := -1e308, numberMax := 1e308 }
    Sampling.read [] (Sampling.boundEntries (-1e308) 1e308) = .ok s ∧
      ∃ x after, (generate s (number none)).runFrom (.ofSeed 0) = (.ok (.float x), after) ∧
        x.isFinite = false ∧ (number none).validate (.float x) ≠ none := by
  intro s
  have hle : ¬ s.numberMax < s.numberMin := by decide +kernel
  have hwidth : ¬ (s.numberMax - s.numberMin).isFinite := by decide +kernel
  obtain ⟨x, after, hrun, hfinite, -⟩ := Draw.exists_of_runFrom_uniform hle (.ofSeed 0)
  rw [← hfinite] at hwidth
  refine ⟨Sampling.read_boundEntries hle [], x, after, ?_, Bool.eq_false_iff.mpr hwidth, ?_⟩
  · rw [generate_number, Draw.runFrom_bind, hrun]
    rfl
  · exact mt (validate_float_iff none x).mp hwidth

end Descriptor

end Conformance
