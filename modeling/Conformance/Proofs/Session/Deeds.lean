import Conformance.Proofs.Session.Accounting

/-!
# Conformance.Proofs.Session.Deeds

What scripts can do to a session, and the two lists that tell what came of it.

A session only ever sees deeds: operations, and failures that are handed in.
Two things are read off the deeds without looking at what the session keeps:
the reports that its runner made (`Session.reports`), and the failures that
have another source than a declaration (`Session.notes`).

1. A failure of the kind `load` is a note, whatever is declared
   (`mem_failures_of_load`).
2. If what is declared can be told, the outcomes are the reports one by one,
   and there is one failure for each report that is not held and for each
   note (`accounted_performs`).
-/

namespace Conformance

/-! ## Reports and their failures -/

/-- The failure of a counterexample is a violation. -/
theorem Failure.kind_of_ofCounterExample {c : CounterExample Error} {label : String} {f : Failure}
    (h : ofCounterExample c label = .ok f) : f.kind = .violation := by
  unfold ofCounterExample at h
  rcases hdescribe : c.describe with e | told
  · rw [hdescribe] at h
    cases h
  · rw [hdescribe] at h
    simp only [bind, Except.bind, pure, Except.pure] at h
    repeat' split at h
    all_goals cases h
    all_goals rfl

/-- What a session is told of a report is no error from outside. -/
theorem Runner.kind_of_declareBy {r : Runner} {predicate : Callable → Predicate} {d : Declaration}
    {report : Report} {f : Failure} (h : (declareBy predicate d r).1.outcome = .ok report)
    (hf : Failure.ofReport report = .ok (some f)) : f.kind ≠ .load := by
  obtain ⟨i, -, hcheck⟩ := exists_check_of_declareBy h
  have hverdict := verdict_of_check hcheck
  cases hverdict with
  | held => cases hf
  | aborted hfunction he =>
    obtain ⟨message, path, rfl, hpath⟩ := exists_unsupported_of_obstacle he
    obtain ⟨text, htext⟩ := Path.exists_render hpath
    simp only [Failure.ofReport, Failure.ofError, Error.mismatch?, htext, bind, Except.bind] at hf
    cases hf
    simp
  | @violated k values cause blame =>
    rcases hof : Failure.ofCounterExample
        (counterExample i values (k + 1) (r.source.trialSeed k) cause blame) i.label with e | f'
    · simp only [Failure.ofReport, hof] at hf
      cases hf
    · simp only [Failure.ofReport, hof] at hf
      cases hf
      rw [Failure.kind_of_ofCounterExample hof]
      simp

namespace Session

/-! ## Deeds -/

/-- What can be done to a session. -/
inductive Deed
  | operate (op : Operation)
  /-- hands in a failure -/
  | keep (f : Failure)

namespace Deed

/-- The session after a deed. -/
def perform (s : Session) : Deed → Session
  | operate op => (op.perform s).2
  | keep f => (recordFailure f s).2

/-- What is declared can be told, if it is not refused. -/
def Tellable (defaultTrials : Int) : Deed → Prop
  | operate op => op.Tellable defaultTrials
  | keep _ => True

/-- The report that is made, if a declaration is checked to its end. -/
def report? (s : Session) : Deed → Option Report
  | operate (.declare lib d) => (Runner.declare lib d s.runner).1.outcome.toOption
  | _ => none

/-- The failure that is kept, if it does not come from a declaration. -/
def note? (s : Session) : Deed → Option Failure
  | operate (.declare ..) => none
  | operate (.record e ticket) =>
    if s.isOwn ticket then none else (Failure.ofError e "").toOption
  | keep f => some f

/-- The report of a deed is that of the check it runs. -/
theorem report?_of_ok {s : Session} {lib : Library} {d : Declaration} {report : Report}
    (h : (Runner.declare lib d s.runner).1.outcome = .ok report) :
    report? s (.operate (.declare lib d)) = some report := by
  simp only [report?, h, Except.toOption]

end Deed

/-- The session after deeds in a row. -/
def performs (s : Session) : List Deed → Session
  | [] => s
  | deed :: deeds => performs (deed.perform s) deeds

/-- The reports that are made in the course of deeds. -/
def reports (s : Session) : List Deed → List Report
  | [] => []
  | deed :: deeds => (deed.report? s).toList ++ reports (deed.perform s) deeds

/-- The failures that are kept in the course of deeds without being declared. -/
def notes (s : Session) : List Deed → List Failure
  | [] => []
  | deed :: deeds => (deed.note? s).toList ++ notes (deed.perform s) deeds

/-- Deeds in a row are done one after the other. -/
theorem performs_append (s : Session) (deeds more : List Deed) :
    s.performs (deeds ++ more) = (s.performs deeds).performs more := by
  induction deeds generalizing s with
  | nil => rfl
  | cons deed deeds ih => exact ih (deed.perform s)

theorem notes_append (s : Session) (deeds more : List Deed) :
    s.notes (deeds ++ more) = s.notes deeds ++ (s.performs deeds).notes more := by
  induction deeds generalizing s with
  | nil => rfl
  | cons deed deeds ih => rw [List.cons_append, notes, ih, ← List.append_assoc]; rfl

theorem recordFailure_snd (f : Failure) (s : Session) : (recordFailure f s).2 = s.withFailure f := by
  obtain ⟨effects, h⟩ := recordFailure_apply f s
  rw [h]

/-! ## Errors from outside -/

/-- Raising a report takes at most a number from the session. -/
theorem demand_snd (report : Report) (s : Session) :
    ∃ raised, (demand report s).2 = { s with raised } := by
  unfold demand
  rcases report.demand with e | u
  · by_cases he : e.isConformance
    · simp only [he, if_true]
      exact ⟨s.raised + 1, rfl⟩
    · simp only [he]
      exact ⟨s.raised, rfl⟩
  · exact ⟨s.raised, rfl⟩

/-- A report adds the failure that it tells, or none. -/
theorem failures_account (report : Report) (s : Session) :
    (account report s).2.failures = s.failures ∨
      ∃ f, Failure.ofReport report = .ok (some f) ∧
        (account report s).2.failures = s.failures ++ [f] := by
  unfold account
  rcases ho : Outcome.ofReport report with e | o
  · exact .inl rfl
  · rw [Act.ofExcept_ok_bind, Act.modify_bind]
    rcases hf : Failure.ofReport report with e | _ | f
    · exact .inl rfl
    · obtain ⟨effects, heffects⟩ := recordSuccess_apply report (s.withOutcome o)
      rw [Act.ofExcept_ok_bind]
      left
      show ((recordSuccess report >>= fun _ => pure report) (s.withOutcome o)).2.failures = _
      rw [Act.bind_of_ok (by rw [heffects]), heffects]
      rfl
    · obtain ⟨effects, heffects⟩ := recordFailure_apply f (s.withOutcome o)
      rw [Act.ofExcept_ok_bind]
      refine .inr ⟨f, rfl, ?_⟩
      show ((recordFailure f >>= fun _ => get >>= _) (s.withOutcome o)).2.failures = _
      rw [Act.bind_of_ok (by rw [heffects]), heffects, Act.get_bind]
      split
      · obtain ⟨raised, hdemand⟩ := demand_snd report ((s.withOutcome o).withFailure f)
        rw [Act.bind_pure_apply (demand report) (fun _ => report), hdemand]
        rfl
      · rfl

/-- The session after a declaration is the one that accounted for its report. -/
theorem declare_snd_of_report {lib : Library} {d : Declaration} {s : Session} {report : Report}
    (h : (Runner.declare lib d s.runner).1.outcome = .ok report) :
    (declare lib d s).2 = (account report (s.ran lib d)).2 := by
  have hran : running (Runner.declare lib d) s =
      ((Runner.declare lib d s.runner).1, s.ran lib d) := rfl
  unfold declare
  rw [Act.bind_of_ok (by rw [hran]; exact h), hran]

/-- What a declaration raises after its report was made is the session's own. -/
theorem own_of_declare_error {lib : Library} {d : Declaration} {s : Session} {report : Report}
    {fault : Fault} (hd : (Operation.declare lib d).Tellable s.runner.checking.defaultTrials)
    (hreport : (Runner.declare lib d s.runner).1.outcome = .ok report)
    (h : (declare lib d s).1.outcome = .error fault) :
    ∃ e ticket, fault = .raised e ticket ∧ e.isOrdinary ∧ (declare lib d s).2.isOwn ticket := by
  have hdeclared := declared_declare lib d s hd
  generalize declare lib d s = ended at hdeclared h
  cases hdeclared with
  | fault hfault => cases hfault.symm.trans hreport
  | held => cases h
  | kept => cases h
  | raised _ _ _ _ _ hverdict =>
    exact ⟨_, _, (Except.error.inj h).symm, Error.isOrdinary_of_isVerdict hverdict,
      isOwn_raised (((s.ran lib d).withOutcome _).withFailure _)⟩

/-- A declaration adds no error from outside. -/
theorem mem_failures_of_declare {lib : Library} {d : Declaration} {s : Session} {f : Failure}
    (hf : f.kind = .load) : f ∈ (declare lib d s).2.failures ↔ f ∈ s.failures := by
  rcases h : (Runner.declare lib d s.runner).1.outcome with fault | report
  · obtain ⟨effects, hdeclare⟩ := declare_of_fault h
    rw [hdeclare]
    rfl
  · rw [declare_snd_of_report h]
    rcases failures_account report (s.ran lib d) with hsame | ⟨f', hf', hadded⟩
    · rw [hsame]
      rfl
    · have hne : f ≠ f' := by
        rintro rfl
        exact Runner.kind_of_declareBy h hf' hf
      rw [hadded, List.mem_append, List.mem_singleton]
      exact ⟨fun hmem => hmem.resolve_right hne, .inl⟩

/-- What accounting for an error adds is its note. -/
theorem failures_record (s : Session) (e : Error) (ticket : Option Ticket) :
    (recordError e ticket s).2.failures =
      s.failures ++ (Deed.note? s (.operate (.record e ticket))).toList := by
  have hrecorded := recorded_recordError e ticket s
  generalize recordError e ticket s = ended at hrecorded
  cases hrecorded with
  | own h => simp [Deed.note?, h]
  | refused h he => simp [Deed.note?, h, he, Except.toOption]
  | kept h hf =>
    simp only [Deed.note?, h, hf, Except.toOption]
    rfl

/-- An error from outside is kept only as a note. -/
theorem mem_failures_of_load {s : Session} (deeds : List Deed) {f : Failure}
    (hf : f.kind = .load) :
    f ∈ (s.performs deeds).failures ↔ f ∈ s.failures ∨ f ∈ s.notes deeds := by
  induction deeds generalizing s with
  | nil => simp [performs, notes]
  | cons deed deeds ih =>
    have hdeed : f ∈ (deed.perform s).failures ↔ f ∈ s.failures ∨ f ∈ (deed.note? s).toList := by
      cases deed with
      | keep f' =>
        show f ∈ (recordFailure f' s).2.failures ↔ _
        rw [recordFailure_snd]
        simp [withFailure, Deed.note?]
      | operate op =>
        cases op with
        | declare lib d =>
          show f ∈ (declare lib d s).2.failures ↔ _
          rw [mem_failures_of_declare hf]
          simp [Deed.note?]
        | record e ticket =>
          show f ∈ (recordError e ticket s).2.failures ↔ _
          rw [failures_record, List.mem_append]
    rw [performs, ih, hdeed, notes, List.mem_append, or_assoc]

/-! ## The account -/

/-- What a session keeps of reports and notes: an outcome for each report, and
a failure for each report that is not held and for each note.  It raises
nothing of its own but a report that is not held. -/
structure Accounted (s s' : Session) (reports : List Report) (notes : List Failure) : Prop where
  later : s.Later s'
  outcomes : ∃ os, s'.outcomes = s.outcomes ++ os ∧
    List.Forall₂ (fun r o => Outcome.ofReport r = .ok o) reports os
  failures : s'.failures.length =
    s.failures.length + (reports.filter (·.status != .held)).length + notes.length
  raised : s.raised < s'.raised → ∃ r ∈ reports, r.status ≠ .held

theorem Accounted.refl (s : Session) : s.Accounted s [] [] :=
  ⟨.refl s, ⟨[], (List.append_nil _).symm, .nil⟩, rfl, fun h => absurd h (Nat.lt_irrefl _)⟩

/-- What is kept of two stretches in a row is kept of both. -/
theorem Accounted.trans {s s' s'' : Session} {rs rs' : List Report} {fs fs' : List Failure}
    (h : s.Accounted s' rs fs) (h' : s'.Accounted s'' rs' fs') :
    s.Accounted s'' (rs ++ rs') (fs ++ fs') where
  later := h.later.trans h'.later
  outcomes := by
    obtain ⟨os, hos, hall⟩ := h.outcomes
    obtain ⟨os', hos', hall'⟩ := h'.outcomes
    refine ⟨os ++ os', ?_, List.rel_append hall hall'⟩
    rw [hos', hos, List.append_assoc]
  failures := by
    rw [h'.failures, h.failures, List.filter_append, List.length_append, List.length_append]
    omega
  raised hlt := by
    by_cases hraised : s.raised < s'.raised
    · obtain ⟨r, hr, hstatus⟩ := h.raised hraised
      exact ⟨r, List.mem_append_left _ hr, hstatus⟩
    · obtain ⟨r, hr, hstatus⟩ := h'.raised (by omega)
      exact ⟨r, List.mem_append_right _ hr, hstatus⟩

/-- Nothing has failed exactly if every report is held and there is no note. -/
theorem Accounted.failures_eq_nil_iff {s s' : Session} {rs : List Report} {fs : List Failure}
    (h : s.Accounted s' rs fs) (hs : s.failures = []) :
    s'.failures = [] ↔ (∀ r ∈ rs, r.status = .held) ∧ fs = [] := by
  have hlength := h.failures
  rw [hs, List.length_nil, Nat.zero_add] at hlength
  rw [← List.length_eq_zero_iff, hlength, Nat.add_eq_zero_iff, List.length_eq_zero_iff,
    List.length_eq_zero_iff, List.filter_eq_nil_iff]
  simp

/-- A declaration keeps its report, if there is one, and no note. -/
theorem accounted_declare {lib : Library} {d : Declaration} {s : Session}
    (hd : (Operation.declare lib d).Tellable s.runner.checking.defaultTrials) :
    s.Accounted (declare lib d s).2
      (Deed.report? s (.operate (.declare lib d))).toList [] := by
  have hlater := later_declare hd
  have hdeclared := declared_declare lib d s hd
  generalize declare lib d s = ended at hlater hdeclared
  cases hdeclared with
  | fault h =>
    have hreport : Deed.report? s (.operate (.declare lib d)) = none := by
      simp only [Deed.report?, h, Except.toOption]
    rw [hreport]
    exact ⟨hlater, ⟨[], (List.append_nil _).symm, .nil⟩, rfl,
      fun hlt => absurd hlt (Nat.lt_irrefl _)⟩
  | @held _ report o h ho hstatus =>
    have hreport := Deed.report?_of_ok h
    have hheld : report.status = .held := (Outcome.status_of_ofReport ho).symm.trans hstatus
    rw [hreport]
    refine ⟨hlater, ⟨[o], rfl, .cons ho .nil⟩, ?_, fun hlt => absurd hlt (Nat.lt_irrefl _)⟩
    simp only [Option.toList_some, List.filter_cons, hheld]
    rfl
  | @kept _ report o f h ho hstatus =>
    have hreport := Deed.report?_of_ok h
    have hunheld : report.status ≠ .held := (Outcome.status_of_ofReport ho) ▸ hstatus
    rw [hreport]
    refine ⟨hlater, ⟨[o], rfl, .cons ho .nil⟩, ?_, fun hlt => absurd hlt (Nat.lt_irrefl _)⟩
    show (s.failures ++ [f]).length = _
    simp [hunheld]
  | @raised _ report o f e h ho hstatus =>
    have hreport := Deed.report?_of_ok h
    have hunheld : report.status ≠ .held := (Outcome.status_of_ofReport ho) ▸ hstatus
    rw [hreport]
    refine ⟨hlater, ⟨[o], rfl, .cons ho .nil⟩, ?_, fun _ => ⟨report, by simp, hunheld⟩⟩
    show (s.failures ++ [f]).length = _
    simp [hunheld]

/-- An error that is accounted for is kept as a note, unless it is the session's own. -/
theorem accounted_record (s : Session) (e : Error) (ticket : Option Ticket) :
    s.Accounted (recordError e ticket s).2 []
      (Deed.note? s (.operate (.record e ticket))).toList := by
  have hfailures := failures_record s e ticket
  have hlater := s.later_recordError e ticket
  have hrecorded := recorded_recordError e ticket s
  refine ⟨hlater, ⟨[], ?_, .nil⟩, ?_, fun hlt => ?_⟩
  · generalize recordError e ticket s = ended at hrecorded
    cases hrecorded with
    | own => exact (List.append_nil _).symm
    | refused => exact (List.append_nil _).symm
    | kept => exact (List.append_nil _).symm
  · rw [hfailures, List.length_append]
    rfl
  · generalize recordError e ticket s = ended at hrecorded hlt
    cases hrecorded with
    | own => exact absurd hlt (Nat.lt_irrefl _)
    | refused => exact absurd hlt (Nat.lt_irrefl _)
    | kept => exact absurd hlt (Nat.lt_irrefl _)

/-- One deed keeps the account. -/
theorem accounted_perform {s : Session} {deed : Deed}
    (hdeed : deed.Tellable s.runner.checking.defaultTrials) :
    s.Accounted (deed.perform s) (deed.report? s).toList (deed.note? s).toList := by
  cases deed with
  | keep f =>
    show s.Accounted (recordFailure f s).2 [] [f]
    rw [recordFailure_snd]
    exact ⟨⟨rfl, rfl, Nat.le_refl _, rfl⟩, ⟨[], (List.append_nil _).symm, .nil⟩,
      List.length_append, fun hlt => absurd hlt (Nat.lt_irrefl _)⟩
  | operate op =>
    cases op with
    | declare lib d => exact accounted_declare hdeed
    | record e ticket => exact accounted_record s e ticket

/-- So do all of them. -/
theorem accounted_performs {s : Session} (deeds : List Deed)
    (hdeeds : ∀ deed ∈ deeds, deed.Tellable s.runner.checking.defaultTrials) :
    s.Accounted (s.performs deeds) (s.reports deeds) (s.notes deeds) := by
  induction deeds generalizing s with
  | nil => exact .refl s
  | cons deed deeds ih =>
    obtain ⟨hdeed, hrest⟩ := List.forall_mem_cons.mp hdeeds
    have hfirst := accounted_perform hdeed
    rw [← hfirst.later.checking] at hrest
    exact hfirst.trans (ih hrest)

end Session

end Conformance
