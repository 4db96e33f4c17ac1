import Conformance.Proofs.Script.Deeds

/-!
# Conformance.Proofs.Script.LoadFailure

What a failure of the kind `load` says of the script that was checked.

Such a failure is kept for what left the script, and for nothing that the
script declared.  The error is one from outside, or one of two of this
library's own that have no kind of failure to themselves: a violation that
is raised again, and an error that says no more than that it is one
(`Failure.kind_eq_load_iff`).
-/

namespace Conformance

/-- An error from outside, or one of this library's own that is told like one:
a violation, or an error of no kind in particular. -/
def Error.IsToldAsLoad (e : Error) : Prop :=
  e.isConformance = false ∨ (∃ c i message, e = .violation c i message) ∨
    ∃ message, e = .conformance message

/-- An error is kept as a load error exactly if it is told as one. -/
theorem Failure.kind_eq_load_iff {e : Error} {label : String} {f : Failure}
    (h : ofError e label = .ok f) :
    f.kind = .load ↔ e.IsToldAsLoad := by
  unfold Error.IsToldAsLoad
  cases e with
  | conformance | descriptor | violation | foreign | intrinsic | settings =>
    obtain rfl := Except.ok.inj h
    simp [Error.isConformance]
  | unsupported message path =>
    rcases hpath : path.render with e | text
    · simp only [ofError, Error.mismatch?, hpath, bind, Except.bind] at h
      cases h
    · simp only [ofError, Error.mismatch?, hpath, bind, Except.bind] at h
      cases h
      simp [Error.isConformance]
  | validation m | argument m | result m =>
    rcases hpath : m.path.render with e | text
    · simp only [ofError, Error.mismatch?, hpath, bind, Except.bind] at h
      cases h
    · simp only [ofError, Error.mismatch?, hpath, bind, Except.bind] at h
      cases h
      simp [Error.isConformance, rejection]

/-- What accounting for an error adds in failures of the kind `load`. -/
theorem Session.exists_load_of_record {e : Error} {ticket : Option Ticket} {s : Session}
    {found : Option Failure} (h : (recordError e ticket s).1.outcome = .ok found) :
    (∃ f ∈ (recordError e ticket s).2.failures, f.kind = .load) ↔
      (∃ f ∈ s.failures, f.kind = .load) ∨ s.isOwn ticket = false ∧ e.IsToldAsLoad := by
  have hrecorded := recorded_recordError e ticket s
  generalize recordError e ticket s = ended at hrecorded h
  cases hrecorded with
  | own hown => simp [hown]
  | refused => cases h
  | @kept effects f hown hf =>
    show (∃ f' ∈ s.failures ++ [f], f'.kind = .load) ↔ _
    rw [← Failure.kind_eq_load_iff hf]
    simp [hown, or_and_right, exists_or]

namespace CheckRequest

open Session

/-- The script of a check leaves no other failures of the kind `load` than
those that it hands in. -/
theorem exists_load_of_left (c : CheckRequest) (script : Script) (w : Workspace) :
    (∃ f ∈ (c.left script w).failures, f.kind = .load) ↔
      ∃ f ∈ c.notes script w, f.kind = .load := by
  refine exists_congr fun f => and_congr_left fun hf => ?_
  have hnone : f ∉ (c.opened w).failures := List.not_mem_nil
  have hmem := mem_failures_of_load (s := c.opened w) (c.deeds script w) hf
  rw [left, hmem]
  exact or_iff_right hnone

/-- A check keeps a failure of the kind `load` for the error that left its
script and for nothing else, unless the script itself hands one in.

1. A script that leaves it to the check to account for errors hands in none.
2. The error that left the script is told so exactly if the session did not
   raise it itself, and it is from outside, a violation, or an error of this
   library of no kind in particular. -/
theorem load_iff_escaped (c : CheckRequest) (script : Script) (w : Workspace) {summary : Summary}
    {results : List Result} {complete : Bool}
    (h : (c.run script w).1.outcome = .ok (summary, results, complete)) :
    (script.all Statement.leavesAccount → c.notes script w = []) ∧
      ((∃ f ∈ summary.failures, f.kind = .load) ↔
        (∃ f ∈ c.notes script w, f.kind = .load) ∨
          ∃ e ticket, c.escaped script w = some (.raised e ticket) ∧
            (c.left script w).isOwn ticket = false ∧ e.IsToldAsLoad) := by
  refine ⟨fun hscript => ?_, ?_⟩
  · unfold notes deeds
    split
    · exact script.notes_deeds hscript _ _
    · rfl
  · have hended := c.ended_run script w
    rw [h] at hended
    rw [← c.exists_load_of_left script w]
    cases hended with
    | complete hescaped =>
      rw [hescaped]
      simp [summary]
    | @recorded _ e ticket found hescaped he hrecord =>
      rw [hescaped]
      simp only [Session.summary]
      rw [exists_load_of_record hrecord]
      simp

/-- Where a predicate stands that no tuple satisfies. -/
def neverWorkspace : Workspace := { library := neverLibrary, runId := "run", freshSeed := 0 }

/-- A check with settings as they are. -/
def plainCheck : CheckRequest := { target := "check.py", settings := {} }

/-- Whether a fault is an error that no session raised, of this library or from outside. -/
def isUnticketed (conformance : Bool) : Fault → Bool
  | .raised e none => e.isConformance == conformance
  | _ => false

theorem load_iff_escaped_foreign :
    let script : Script := [.declare true neverDeclared, .raise (.foreign "ValueError" none)]
    ∃ summary results complete,
      (plainCheck.run script neverWorkspace).1.outcome = .ok (summary, results, complete) ∧
        plainCheck.notes script neverWorkspace = [] ∧ ∃ f ∈ summary.failures, f.kind = .load := by
  intro script
  have hrun : (plainCheck.run script neverWorkspace).1.outcome.isOk = true := by decide +kernel
  have hescaped : (plainCheck.escaped script neverWorkspace).any (isUnticketed false) = true := by
    decide +kernel
  rcases h : (plainCheck.run script neverWorkspace).1.outcome with fault | ⟨summary, results, complete⟩
  · rw [h] at hrun
    cases hrun
  · obtain ⟨hnotes, hload⟩ := load_iff_escaped plainCheck script neverWorkspace h
    refine ⟨summary, results, complete, rfl, hnotes rfl, hload.mpr (.inr ?_)⟩
    rcases hfault : plainCheck.escaped script neverWorkspace with _ | ⟨e, _ | ticket⟩ | _
    · rw [hfault] at hescaped
      cases hescaped
    · rw [hfault] at hescaped
      exact ⟨e, none, rfl, rfl, .inl (by simpa [isUnticketed] using hescaped)⟩
    · rw [hfault] at hescaped
      cases hescaped
    · rw [hfault] at hescaped
      cases hescaped

/-- The violation of an invariant that never holds, raised again. -/
def neverViolation : Error :=
  .violation
    { values := [.bool false], descriptors := [.boolean none], trial := 1, trialSeed := 0 }
    "never" "invariant 'never' falsified on trial 1: (False)"

/-- A violation that is raised again is one of this library's own errors, and
is kept as one from outside. -/
theorem load_of_violation :
    let script : Script := [.declare true neverDeclared, .raise neverViolation]
    script.all Statement.leavesAccount = true ∧
      (plainCheck.escaped script neverWorkspace).any (isUnticketed true) = true ∧
      (plainCheck.run script neverWorkspace).1.outcome.toOption.map
        (fun ended => ended.1.failures.map (·.kind)) = some [.violation, .load] := by
  decide +kernel

end CheckRequest

end Conformance
