import Conformance.Proofs.Invariant.Telling
import Conformance.Session

/-!
# Conformance.Proofs.Session.Declare

What one operation on a session does to it.

`Session.Declared` lists the ends of a declaration: the runner has a fault,
the invariant held, or it did not and the failure is kept, after which the
report is handed on or raised (`declared_declare`).  `Session.Recorded` lists
the ends of accounting for an error (`recorded_recordError`).  Both say in
full what the session is afterwards; what is logged on the way is left open.
-/

namespace Conformance

/-- An outcome has the status of its report. -/
theorem Outcome.status_of_ofReport {report : Report} {o : Outcome}
    (h : ofReport report = .ok o) : o.status = report.status := by
  unfold ofReport at h
  rcases hsummary : report.summary with e | summary
  · rw [hsummary] at h
    cases h
  · rw [hsummary] at h
    cases h
    rfl

/-- A reporter always gets a failure told. -/
theorem Reporter.exists_announceFailure (f : Failure) (r : Reporter) :
    ∃ effects, r.announceFailure f = ⟨.ok (), effects⟩ := by
  cases r with
  | log => exact ⟨_, rfl⟩
  | collect failures successes => exact ⟨_, rfl⟩

/-- A reporter always gets a success told. -/
theorem Reporter.exists_announceSuccess (report : Report) (r : Reporter) :
    ∃ effects, r.announceSuccess report = ⟨.ok (), effects⟩ := by
  cases r with
  | log => exact ⟨_, rfl⟩
  | collect failures successes => exact ⟨_, rfl⟩

namespace Session

variable {lib : Library} {d : Declaration} {s : Session}

/-! ## Accounting for a report -/

/-- The session with the outcome of one more invariant. -/
def withOutcome (s : Session) (o : Outcome) : Session :=
  { s with outcomes := s.outcomes ++ [o] }

/-- The session after it was told of a success. -/
def withSuccess (s : Session) (report : Report) : Session :=
  { s with reporter := s.reporter.withSuccess report }

/-- The session after it was told of a failure. -/
def withFailure (s : Session) (f : Failure) : Session :=
  { s with failures := s.failures ++ [f], reporter := s.reporter.withFailure f }

/-- To record a failure adds it to the session, and nothing fails. -/
theorem recordFailure_apply (f : Failure) (s : Session) :
    ∃ effects, recordFailure f s = (⟨.ok (), effects⟩, s.withFailure f) := by
  obtain ⟨effects, heffects⟩ := (s.reporter.withFailure f).exists_announceFailure f
  refine ⟨effects, ?_⟩
  unfold recordFailure
  rw [Act.modify_bind, Act.get_bind, Act.lift_apply, heffects]
  rfl

theorem recordSuccess_apply (report : Report) (s : Session) :
    ∃ effects, recordSuccess report s = (⟨.ok (), effects⟩, s.withSuccess report) := by
  obtain ⟨effects, heffects⟩ := (s.reporter.withSuccess report).exists_announceSuccess report
  refine ⟨effects, ?_⟩
  unfold recordSuccess
  rw [Act.modify_bind, Act.get_bind, Act.lift_apply, heffects]
  rfl

/-- A report that is raised is raised as an error of the session's own. -/
theorem demand_apply {report : Report} {e : Error} (he : report.demand = .error e)
    (hverdict : e.isVerdict) (s : Session) :
    demand report s =
      (⟨.error (.raised e (some ⟨s.id, s.raised⟩)), []⟩, { s with raised := s.raised + 1 }) := by
  unfold demand
  rw [he]
  simp only [Error.isConformance_of_isVerdict hverdict, if_true]
  rfl

/-- The error that a session has just raised is its own. -/
theorem isOwn_raised (s : Session) :
    { s with raised := s.raised + 1 }.isOwn (some ⟨s.id, s.raised⟩) := by
  simp [isOwn]

section

variable {report : Report} {o : Outcome} (s : Session)

/-- A report that held is accounted for as a success. -/
theorem account_of_held (ho : Outcome.ofReport report = .ok o)
    (hf : Failure.ofReport report = .ok none) :
    ∃ effects, account report s =
      (⟨.ok report, effects⟩, (s.withOutcome o).withSuccess report) := by
  obtain ⟨effects, heffects⟩ := recordSuccess_apply report (s.withOutcome o)
  unfold account
  rw [ho, hf, Act.ofExcept_ok_bind, Act.modify_bind, Act.ofExcept_ok_bind]
  show ∃ effects, (recordSuccess report >>= fun _ => pure report) (s.withOutcome o) = _
  rw [Act.bind_of_ok (by rw [heffects]), heffects]
  exact ⟨_, rfl⟩

/-- A report that did not hold is kept as a failure where failures are not raised. -/
theorem account_of_kept {f : Failure} (ho : Outcome.ofReport report = .ok o)
    (hf : Failure.ofReport report = .ok (some f))
    (hfast : s.settings.checking.failFast = false) :
    ∃ effects, account report s =
      (⟨.ok report, effects⟩, (s.withOutcome o).withFailure f) := by
  obtain ⟨effects, heffects⟩ := recordFailure_apply f (s.withOutcome o)
  have hfast' : ((s.withOutcome o).withFailure f).settings.checking.failFast = false := hfast
  unfold account
  rw [ho, hf, Act.ofExcept_ok_bind, Act.modify_bind, Act.ofExcept_ok_bind]
  show ∃ effects, (recordFailure f >>= fun _ => get >>= _) (s.withOutcome o) = _
  rw [Act.bind_of_ok (by rw [heffects]), heffects, Act.get_bind, hfast']
  exact ⟨_, rfl⟩

/-- Where failures are raised, the report is kept and then raised, with a ticket of the session. -/
theorem account_of_raised {f : Failure} {e : Error} (ho : Outcome.ofReport report = .ok o)
    (hf : Failure.ofReport report = .ok (some f))
    (hfast : s.settings.checking.failFast = true) (he : report.demand = .error e)
    (hverdict : e.isVerdict) :
    ∃ effects, account report s =
      (⟨.error (.raised e (some ⟨s.id, s.raised⟩)), effects⟩,
        { (s.withOutcome o).withFailure f with raised := s.raised + 1 }) := by
  obtain ⟨effects, heffects⟩ := recordFailure_apply f (s.withOutcome o)
  have hfast' : ((s.withOutcome o).withFailure f).settings.checking.failFast = true := hfast
  have hdemand := demand_apply he hverdict ((s.withOutcome o).withFailure f)
  unfold account
  rw [ho, hf, Act.ofExcept_ok_bind, Act.modify_bind, Act.ofExcept_ok_bind]
  show ∃ effects, (recordFailure f >>= fun _ => get >>= _) (s.withOutcome o) = _
  rw [Act.bind_of_ok (by rw [heffects]), heffects, Act.get_bind, hfast', if_pos rfl,
    Act.bind_of_error (by rw [hdemand]), hdemand]
  exact ⟨_, rfl⟩

end

/-! ## Declarations -/

/-- The session after its runner has dealt with a declaration. -/
def ran (s : Session) (lib : Library) (d : Declaration) : Session :=
  { s with runner := (Runner.declare lib d s.runner).2 }

/-- A declaration without a report leaves no more than the trials that were made. -/
theorem declare_of_fault {fault : Fault}
    (h : (Runner.declare lib d s.runner).1.outcome = .error fault) :
    ∃ effects, declare lib d s = (⟨.error fault, effects⟩, s.ran lib d) := by
  have hran : running (Runner.declare lib d) s =
      ((Runner.declare lib d s.runner).1, s.ran lib d) := rfl
  unfold declare
  rw [Act.bind_of_error (by rw [hran]; exact h), hran]
  exact ⟨_, rfl⟩

/-- A declaration with a report comes to what accounting for the report comes to. -/
theorem declare_of_report {report : Report} {outcome : Except Fault Report} {s' : Session}
    (h : (Runner.declare lib d s.runner).1.outcome = .ok report)
    (haccount : ∃ effects, account report (s.ran lib d) = (⟨outcome, effects⟩, s')) :
    ∃ effects, declare lib d s = (⟨outcome, effects⟩, s') := by
  have hran : running (Runner.declare lib d) s =
      ((Runner.declare lib d s.runner).1, s.ran lib d) := rfl
  obtain ⟨effects, haccount⟩ := haccount
  unfold declare
  rw [Act.bind_of_ok (by rw [hran]; exact h), hran, haccount]
  exact ⟨_, rfl⟩

/-- How a declaration ends, and the session that it leaves behind. -/
inductive Declared (lib : Library) (d : Declaration) (s : Session) : Run Report × Session → Prop
  | fault {effects fault} (h : (Runner.declare lib d s.runner).1.outcome = .error fault) :
    Declared lib d s (⟨.error fault, effects⟩, s.ran lib d)
  | held {effects report o} (h : (Runner.declare lib d s.runner).1.outcome = .ok report)
    (ho : Outcome.ofReport report = .ok o) (hstatus : o.status = .held) :
    Declared lib d s
      (⟨.ok report, effects⟩, ((s.ran lib d).withOutcome o).withSuccess report)
  | kept {effects report o f} (h : (Runner.declare lib d s.runner).1.outcome = .ok report)
    (ho : Outcome.ofReport report = .ok o) (hstatus : o.status ≠ .held)
    (hf : Failure.ofReport report = .ok (some f)) (hfast : s.settings.checking.failFast = false) :
    Declared lib d s
      (⟨.ok report, effects⟩, ((s.ran lib d).withOutcome o).withFailure f)
  | raised {effects report o f e} (h : (Runner.declare lib d s.runner).1.outcome = .ok report)
    (ho : Outcome.ofReport report = .ok o) (hstatus : o.status ≠ .held)
    (hf : Failure.ofReport report = .ok (some f)) (hfast : s.settings.checking.failFast = true)
    (hverdict : e.isVerdict) :
    Declared lib d s
      (⟨.error (.raised e (some ⟨s.id, s.raised⟩)), effects⟩,
        { ((s.ran lib d).withOutcome o).withFailure f with raised := s.raised + 1 })

/-- What a session learns from a report on a declaration. -/
theorem exists_outcome_of_declare
    (hd : ∀ i, d.invariant lib.predicate s.runner.checking.defaultTrials = .ok i → i.Tellable)
    {report : Report} (h : (Runner.declare lib d s.runner).1.outcome = .ok report) :
    ∃ o, Outcome.ofReport report = .ok o ∧
      (o.status = .held ∧ Failure.ofReport report = .ok none ∨
        o.status ≠ .held ∧ ∃ f e, Failure.ofReport report = .ok (some f) ∧
          report.demand = .error e ∧ e.isVerdict) := by
  obtain ⟨i, hi, hcheck⟩ := Runner.exists_check_of_declareBy h
  obtain ⟨told, htold, hreport⟩ := Runner.check_told (hd i hi) hcheck
  obtain ⟨⟨o, ho⟩, hraise⟩ := Runner.check_summed (hd i hi) hcheck
  refine ⟨o, ho, ?_⟩
  rw [Outcome.status_of_ofReport ho, htold]
  cases told with
  | none => exact .inl ⟨hreport.held.mp rfl, rfl⟩
  | some f =>
    have hunheld : report.status ≠ .held := fun hheld => by cases hreport.held.mpr hheld
    obtain ⟨e, he, hverdict⟩ := hraise hunheld
    exact .inr ⟨hunheld, f, e, rfl, he, hverdict⟩

/-- Every declaration ends in one of these ways. -/
theorem declared_declare (lib : Library) (d : Declaration) (s : Session)
    (hd : ∀ i, d.invariant lib.predicate s.runner.checking.defaultTrials = .ok i → i.Tellable) :
    Declared lib d s (declare lib d s) := by
  rcases h : (Runner.declare lib d s.runner).1.outcome with fault | report
  · obtain ⟨effects, hdeclare⟩ := declare_of_fault h
    rw [hdeclare]
    exact .fault h
  · obtain ⟨o, ho, ⟨hstatus, hf⟩ | ⟨hstatus, f, e, hf, he, hverdict⟩⟩ :=
      exists_outcome_of_declare hd h
    · obtain ⟨effects, hdeclare⟩ := declare_of_report h (account_of_held (s.ran lib d) ho hf)
      rw [hdeclare]
      exact .held h ho hstatus
    · cases hfast : s.settings.checking.failFast with
      | false =>
        obtain ⟨effects, hdeclare⟩ :=
          declare_of_report h (account_of_kept (s.ran lib d) ho hf hfast)
        rw [hdeclare]
        exact .kept h ho hstatus hf hfast
      | true =>
        obtain ⟨effects, hdeclare⟩ :=
          declare_of_report h (account_of_raised (s.ran lib d) ho hf hfast he hverdict)
        rw [hdeclare]
        exact .raised h ho hstatus hf hfast hverdict

/-! ## Caught errors -/

/-- How accounting for an error ends, and the session that it leaves behind. -/
inductive Recorded (e : Error) (ticket : Option Ticket) (s : Session) :
    Run (Option Failure) × Session → Prop
  | own (h : s.isOwn ticket) : Recorded e ticket s (pure none, s)
  | refused {e'} (h : s.isOwn ticket = false) (he : Failure.ofError e "" = .error e') :
    Recorded e ticket s (Run.raise e', s)
  | kept {effects f} (h : s.isOwn ticket = false) (hf : Failure.ofError e "" = .ok f) :
    Recorded e ticket s (⟨.ok (some f), effects⟩, s.withFailure f)

/-- An error that the session raised itself is not accounted for again. -/
theorem recordError_of_own {e : Error} {ticket : Option Ticket} (h : s.isOwn ticket) :
    recordError e ticket s = (pure none, s) := by
  unfold recordError
  rw [Act.get_bind, if_pos h]
  rfl

/-- Every error is accounted for in one of these ways. -/
theorem recorded_recordError (e : Error) (ticket : Option Ticket) (s : Session) :
    Recorded e ticket s (recordError e ticket s) := by
  cases h : s.isOwn ticket with
  | true =>
    rw [recordError_of_own h]
    exact .own h
  | false =>
    unfold recordError
    rw [Act.get_bind, h, if_neg Bool.false_ne_true]
    rcases hf : Failure.ofError e "" with e' | f
    · rw [Act.ofExcept_error_bind]
      exact .refused h hf
    · obtain ⟨effects, heffects⟩ := recordFailure_apply f s
      have hkeep : (recordFailure f >>= fun _ => pure (some f) : Act Session (Option Failure)) s =
          (⟨.ok (some f), effects ++ []⟩, s.withFailure f) := by
        rw [Act.bind_of_ok (by rw [heffects]), heffects]
        rfl
      rw [Act.ofExcept_ok_bind, Act.bind_of_ok rfl, Act.lift_apply, hkeep]
      exact .kept h hf

/-! ## What stays -/

/-- What stays as it is in a session, and that it forgets no error of its own. -/
structure Later (s s' : Session) : Prop where
  id : s'.id = s.id
  settings : s'.settings = s.settings
  raised : s.raised ≤ s'.raised
  checking : s'.runner.checking = s.runner.checking

theorem Later.refl (s : Session) : s.Later s := ⟨rfl, rfl, Nat.le_refl _, rfl⟩

theorem Later.trans {s' s'' : Session} (h : s.Later s') (h' : s'.Later s'') : s.Later s'' :=
  ⟨h'.id.trans h.id, h'.settings.trans h.settings, Nat.le_trans h.raised h'.raised,
    h'.checking.trans h.checking⟩

/-- What is a session's own stays its own. -/
theorem Later.isOwn {s' : Session} (h : s.Later s') {ticket : Option Ticket} (hown : s.isOwn ticket) :
    s'.isOwn ticket := by
  cases ticket with
  | none => cases hown
  | some t =>
    simp only [Session.isOwn, Bool.and_eq_true, beq_iff_eq, decide_eq_true_eq] at hown ⊢
    exact ⟨hown.1.trans h.id.symm, Nat.lt_of_lt_of_le hown.2 h.raised⟩

/-- The runner goes on, and all else stays. -/
theorem later_ran (s : Session) (lib : Library) (d : Declaration) : s.Later (s.ran lib d) := by
  obtain ⟨source, hsource⟩ := s.runner.declareBy_snd lib.predicate d
  refine ⟨rfl, rfl, Nat.le_refl _, ?_⟩
  show (Runner.declareBy lib.predicate d s.runner).2.checking = s.runner.checking
  rw [hsource]

/-- A declaration keeps what stays. -/
theorem later_declare
    (hd : ∀ i, d.invariant lib.predicate s.runner.checking.defaultTrials = .ok i → i.Tellable) :
    s.Later (declare lib d s).2 := by
  have hdeclared := declared_declare lib d s hd
  obtain ⟨hid, hsettings, hraised, hchecking⟩ := s.later_ran lib d
  generalize declare lib d s = ended at hdeclared
  cases hdeclared with
  | fault => exact ⟨hid, hsettings, hraised, hchecking⟩
  | held => exact ⟨hid, hsettings, hraised, hchecking⟩
  | kept => exact ⟨hid, hsettings, hraised, hchecking⟩
  | raised => exact ⟨hid, hsettings, Nat.le_succ _, hchecking⟩

/-- To account for an error keeps what stays. -/
theorem later_recordError (s : Session) (e : Error) (ticket : Option Ticket) :
    s.Later (recordError e ticket s).2 := by
  have hrecorded := recorded_recordError e ticket s
  generalize recordError e ticket s = ended at hrecorded
  cases hrecorded with
  | own => exact .refl s
  | refused => exact .refl s
  | kept => exact ⟨rfl, rfl, Nat.le_refl _, rfl⟩

end Session

end Conformance
