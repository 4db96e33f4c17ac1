import Conformance.Proofs.Session.Declare

/-!
# Conformance.Proofs.Session.FailFast

Two sessions side by side, of which one raises its first failure.

Whether failures are raised is no business of the runner
(`Runner.declareBy_failingFast`), so `Twins` learn the same from a declaration
(`Twins.declare`): if the invariant held they stay twins, and if it did not
the one goes on and the other stops.  By induction on the declarations the
session that stops has seen what the other one has seen up to its first
failure (`Twins.declareAll`).
-/

namespace Conformance

/-! ## Runners -/

namespace Runner

/-- The runner with another word on whether failures are raised. -/
def failingFast (r : Runner) (b : Bool) : Runner :=
  { r with checking := { r.checking with failFast := b } }

variable (r : Runner) (b : Bool)

/-- Whether failures are raised is of no concern to trials. -/
theorem trials_failingFast (i : Invariant) (left index : Nat) (source : Twister) :
    (r.failingFast b).trials i left index source = r.trials i left index source := by
  induction left generalizing index source with
  | zero => rfl
  | succ left ih =>
    rw [trials_succ, trials_succ, ih]
    rfl

theorem check_failingFast (i : Invariant) :
    check i (r.failingFast b) = ((check i r).1, (check i r).2.failingFast b) := by
  rcases h : obstacle? i.descriptors with _ | e
  · rw [check_of_generable h, check_of_generable h, trials_failingFast]
    rfl
  · rw [check_of_obstacle h, check_of_obstacle h]
    rfl

/-- A runner does not look at whether failures are raised. -/
theorem declareBy_failingFast (predicate : Callable → Predicate) (d : Declaration) :
    declareBy predicate d (r.failingFast b) =
      ((declareBy predicate d r).1, (declareBy predicate d r).2.failingFast b) := by
  have hdefault : (r.failingFast b).checking.defaultTrials = r.checking.defaultTrials := rfl
  rw [declareBy_eq, declareBy_eq, hdefault]
  split
  · exact check_failingFast r b _
  · rfl

end Runner

/-! ## Sequences of declarations -/

/-- What is declared is accepted, over well-formed descriptors, and its
predicate returns or fails. -/
def Declaration.Ordinary (lib : Library) (defaultTrials : Int) (d : Declaration) : Prop :=
  ∃ i, d.invariant lib.predicate defaultTrials = .ok i ∧ i.Ordinary

/-- What an ordinary declaration states can be told. -/
theorem Declaration.Ordinary.tellable {lib : Library} {defaultTrials : Int} {d : Declaration}
    (h : d.Ordinary lib defaultTrials) :
    ∀ i, d.invariant lib.predicate defaultTrials = .ok i → i.Tellable := by
  obtain ⟨i, hi, hordinary⟩ := h
  intro j hj
  obtain rfl := Except.ok.inj (hi.symm.trans hj)
  exact hordinary.tellable

namespace Session

/-- Declares one after the other up to the first that raises, whose fault is kept. -/
def declareAll (lib : Library) (s : Session) : List Declaration → Option Fault × Session
  | [] => (none, s)
  | d :: ds =>
    match (declare lib d s).1.outcome with
    | .ok _ => declareAll lib (declare lib d s).2 ds
    | .error fault => (some fault, (declare lib d s).2)

variable {lib : Library} {d : Declaration} {ds : List Declaration} {s t : Session}

/-- After a report the other declarations follow. -/
theorem declareAll_cons_ok {report : Report} (h : (declare lib d s).1.outcome = .ok report) :
    s.declareAll lib (d :: ds) = (declare lib d s).2.declareAll lib ds := by
  rw [declareAll, h]

/-- At the first fault the declarations end. -/
theorem declareAll_cons_error {fault : Fault} (h : (declare lib d s).1.outcome = .error fault) :
    s.declareAll lib (d :: ds) = (some fault, (declare lib d s).2) := by
  rw [declareAll, h]

/-- An ordinary declaration is reported on unless a draw is given up. -/
theorem exists_report_of_completes (hd : d.Ordinary lib s.runner.checking.defaultTrials)
    (hdraws : (declare lib d s).1.Completes) :
    ∃ report, (Runner.declare lib d s.runner).1.outcome = .ok report := by
  rcases h : (Runner.declare lib d s.runner).1.outcome with fault | report
  · obtain ⟨effects, hdeclare⟩ := declare_of_fault h
    obtain ⟨i, hi, hordinary⟩ := hd
    have hcheck : (Runner.check i s.runner).1.outcome = .error fault := by
      rw [← h, Runner.declare, Runner.declareBy_eq, hi]
    obtain rfl := Runner.check_error hordinary hcheck
    rw [hdeclare] at hdraws
    exact absurd rfl hdraws
  · exact ⟨report, rfl⟩

/-- A declaration that is reported on completes. -/
theorem completes_of_report
    (hd : ∀ i, d.invariant lib.predicate s.runner.checking.defaultTrials = .ok i → i.Tellable)
    {report : Report} (h : (Runner.declare lib d s.runner).1.outcome = .ok report) :
    (declare lib d s).1.Completes := by
  have hdeclared := declared_declare lib d s hd
  generalize declare lib d s = ended at hdeclared
  intro hfault
  cases hdeclared with
  | fault hnone => cases hnone.symm.trans h
  | held => cases hfault
  | kept => cases hfault
  | raised => cases hfault

/-! ## A session that goes on -/

/-- If no draw is given up in all of them, none is in the first. -/
theorem completes_of_declareAll (hdraws : (s.declareAll lib (d :: ds)).1 ≠ some .unfinished) :
    (declare lib d s).1.Completes := by
  intro h
  rw [declareAll_cons_error h] at hdraws
  exact hdraws rfl

/-- What is ordinary for a session is ordinary for what follows on it. -/
theorem Later.ordinary {s' : Session} (h : s.Later s')
    (hds : ∀ d ∈ ds, d.Ordinary lib s.runner.checking.defaultTrials) :
    ∀ d ∈ ds, d.Ordinary lib s'.runner.checking.defaultTrials := by
  rw [h.checking]
  exact hds

/-- A session that raises no failure reports on an ordinary declaration. -/
theorem declare_of_patient (hfast : s.settings.checking.failFast = false)
    (hd : d.Ordinary lib s.runner.checking.defaultTrials)
    (hdraws : (declare lib d s).1.Completes) :
    ∃ report o fs, (declare lib d s).1.outcome = .ok report ∧
      (declare lib d s).2.outcomes = s.outcomes ++ [o] ∧
      (declare lib d s).2.failures = s.failures ++ fs := by
  obtain ⟨report, hreport⟩ := exists_report_of_completes hd hdraws
  have hdeclared := declared_declare lib d s hd.tellable
  generalize declare lib d s = ended at hdeclared
  cases hdeclared with
  | fault h => cases h.symm.trans hreport
  | @held _ report o => exact ⟨report, o, [], rfl, rfl, (List.append_nil _).symm⟩
  | @kept _ report o f => exact ⟨report, o, [f], rfl, rfl, rfl⟩
  | raised _ _ _ _ hraise => cases hfast.symm.trans hraise

/-- A session that raises no failure gets through its declarations. -/
theorem declareAll_of_patient (hfast : s.settings.checking.failFast = false)
    (hds : ∀ d ∈ ds, d.Ordinary lib s.runner.checking.defaultTrials)
    (hdraws : (s.declareAll lib ds).1 ≠ some .unfinished) :
    (s.declareAll lib ds).1 = none ∧
      (∃ os, (s.declareAll lib ds).2.outcomes = s.outcomes ++ os ∧ os.length = ds.length) ∧
      ∃ fs, (s.declareAll lib ds).2.failures = s.failures ++ fs := by
  induction ds generalizing s with
  | nil =>
    exact ⟨rfl, ⟨[], (List.append_nil _).symm, rfl⟩, [], (List.append_nil _).symm⟩
  | cons d ds ih =>
    obtain ⟨hd, hds⟩ := List.forall_mem_cons.mp hds
    obtain ⟨report, o, fs, hreport, ho, hfs⟩ :=
      declare_of_patient hfast hd (completes_of_declareAll hdraws)
    have hlater := later_declare hd.tellable
    rw [declareAll_cons_ok hreport] at hdraws ⊢
    obtain ⟨hnone, ⟨os, hos, hlength⟩, gs, hgs⟩ :=
      ih (by rw [hlater.settings]; exact hfast) (hlater.ordinary hds) hdraws
    refine ⟨hnone, ⟨o :: os, ?_, ?_⟩, fs ++ gs, ?_⟩
    · rw [hos, ho, List.append_assoc, List.singleton_append]
    · rw [List.length_cons, List.length_cons, hlength]
    · rw [hgs, hfs, List.append_assoc]

/-! ## Twins -/

/-- Sessions with runners that are at the same place, of which the second
raises its failures. -/
structure Twins (s t : Session) : Prop where
  runner : t.runner = s.runner.failingFast true
  patient : s.settings.checking.failFast = false
  fast : t.settings.checking.failFast = true

/-- Twins that run the same trials are twins. -/
theorem Twins.ran (h : s.Twins t) (lib : Library) (d : Declaration) :
    (s.ran lib d).Twins (t.ran lib d) := by
  refine ⟨?_, h.patient, h.fast⟩
  show (Runner.declareBy lib.predicate d t.runner).2 = _
  rw [h.runner, Runner.declareBy_failingFast]
  rfl

/-- What twins learn from a declaration, and what they make of it. -/
theorem Twins.declare (h : s.Twins t) (hd : d.Ordinary lib s.runner.checking.defaultTrials)
    (hdraws : (Session.declare lib d s).1.Completes) :
    ∃ report o,
      (o.status = .held ∧
        (∃ effects, Session.declare lib d s =
          (⟨.ok report, effects⟩, ((s.ran lib d).withOutcome o).withSuccess report)) ∧
        ∃ effects, Session.declare lib d t =
          (⟨.ok report, effects⟩, ((t.ran lib d).withOutcome o).withSuccess report)) ∨
      (o.status ≠ .held ∧ ∃ f e, e.isVerdict ∧
        (∃ effects, Session.declare lib d s =
          (⟨.ok report, effects⟩, ((s.ran lib d).withOutcome o).withFailure f)) ∧
        ∃ effects, Session.declare lib d t =
          (⟨.error (.raised e (some ⟨t.id, t.raised⟩)), effects⟩,
            { ((t.ran lib d).withOutcome o).withFailure f with raised := t.raised + 1 })) := by
  obtain ⟨report, hs⟩ := exists_report_of_completes hd hdraws
  have ht : (Runner.declare lib d t.runner).1.outcome = .ok report := by
    rw [Runner.declare, h.runner, Runner.declareBy_failingFast]
    exact hs
  obtain ⟨o, ho, ⟨hstatus, hf⟩ | ⟨hstatus, f, e, hf, he, hverdict⟩⟩ :=
    exists_outcome_of_declare hd.tellable hs
  · exact ⟨report, o, .inl ⟨hstatus, declare_of_report hs (account_of_held _ ho hf),
      declare_of_report ht (account_of_held _ ho hf)⟩⟩
  · exact ⟨report, o, .inr ⟨hstatus, f, e, hverdict,
      declare_of_report hs (account_of_kept _ ho hf h.patient),
      declare_of_report ht (account_of_raised _ ho hf h.fast he hverdict)⟩⟩

/-- What becomes of twins that began as `s` and `t`: all that was declared
held, or they parted at the first failure, which the second raised. -/
inductive Parted (s t : Session) : Session → Option Fault × Session → Prop
  | never {s' t'} (os : List Outcome) (hheld : ∀ o ∈ os, o.status = .held)
    (hs : s'.outcomes = s.outcomes ++ os) (ht : t'.outcomes = t.outcomes ++ os)
    (hsf : s'.failures = s.failures) (htf : t'.failures = t.failures) :
    Parted s t s' (none, t')
  | after {s' t' o f e ticket} (os more : List Outcome) (fs : List Failure)
    (hheld : ∀ o ∈ os, o.status = .held)
    (ho : o.status ≠ .held) (hs : s'.outcomes = s.outcomes ++ (os ++ o :: more))
    (ht : t'.outcomes = t.outcomes ++ (os ++ [o])) (hsf : s'.failures = s.failures ++ f :: fs)
    (htf : t'.failures = t.failures ++ [f]) (he : e.isVerdict) (hown : t'.isOwn ticket) :
    Parted s t s' (some (.raised e ticket), t')

/-- An invariant that held goes before what follows. -/
theorem Parted.cons {s₁ t₁ s' : Session} {ended : Option Fault × Session}
    (h : Parted s₁ t₁ s' ended) {o : Outcome} (ho : o.status = .held)
    (hs : s₁.outcomes = s.outcomes ++ [o]) (ht : t₁.outcomes = t.outcomes ++ [o])
    (hsf : s₁.failures = s.failures) (htf : t₁.failures = t.failures) : Parted s t s' ended := by
  cases h with
  | never os hheld hs' ht' hsf' htf' =>
    refine .never (o :: os) (List.forall_mem_cons.mpr ⟨ho, hheld⟩) ?_ ?_ (hsf'.trans hsf)
      (htf'.trans htf)
    · rw [hs', hs, List.append_assoc, List.singleton_append]
    · rw [ht', ht, List.append_assoc, List.singleton_append]
  | after os more fs hheld hp hs' ht' hsf' htf' he hown =>
    refine .after (o :: os) more fs (List.forall_mem_cons.mpr ⟨ho, hheld⟩) hp ?_ ?_ (hsf ▸ hsf')
      (htf ▸ htf') he hown
    · rw [hs', hs, List.append_assoc, List.singleton_append, List.cons_append]
    · rw [ht', ht, List.append_assoc, List.singleton_append, List.cons_append]

/-- Twins stay together while all that is declared holds, and part at the first failure. -/
theorem Twins.declareAll (h : s.Twins t)
    (hds : ∀ d ∈ ds, d.Ordinary lib s.runner.checking.defaultTrials)
    (hdraws : (s.declareAll lib ds).1 ≠ some .unfinished) :
    Parted s t (s.declareAll lib ds).2 (t.declareAll lib ds) := by
  induction ds generalizing s t with
  | nil =>
    exact .never [] nofun (List.append_nil _).symm (List.append_nil _).symm rfl rfl
  | cons d ds ih =>
    obtain ⟨hd, hds⟩ := List.forall_mem_cons.mp hds
    have hlater := later_declare hd.tellable
    obtain ⟨report, o, ⟨ho, ⟨_, hs⟩, _, ht⟩ | ⟨ho, f, e, he, ⟨_, hs⟩, _, ht⟩⟩ :=
      h.declare hd (completes_of_declareAll hdraws)
    · rw [declareAll_cons_ok (by rw [hs])] at hdraws ⊢
      rw [declareAll_cons_ok (by rw [ht])]
      rw [hs] at hdraws hlater ⊢
      rw [ht]
      obtain ⟨hrunner, hpatient, hfast⟩ := h.ran lib d
      have htwins : (((s.ran lib d).withOutcome o).withSuccess report).Twins
          (((t.ran lib d).withOutcome o).withSuccess report) := ⟨hrunner, hpatient, hfast⟩
      exact (ih htwins (hlater.ordinary hds) hdraws).cons ho rfl rfl rfl rfl
    · rw [declareAll_cons_ok (by rw [hs])] at hdraws ⊢
      rw [declareAll_cons_error (by rw [ht])]
      rw [hs] at hdraws hlater ⊢
      rw [ht]
      obtain ⟨-, ⟨more, hmore, -⟩, fs, hfs⟩ :=
        declareAll_of_patient (by rw [hlater.settings]; exact h.patient) (hlater.ordinary hds) hdraws
      refine .after [] more fs nofun ho ?_ rfl ?_ rfl he ?_
      · rw [hmore]
        exact List.append_assoc _ _ _
      · rw [hfs]
        exact List.append_assoc _ _ _
      · exact isOwn_raised (((t.ran lib d).withOutcome o).withFailure f)

end Session

/-! ## Summaries -/

/-- The second summary is the first one up to the first invariant that is not
held, of which it has the failure. -/
structure Summary.CutAtFailure (a b : Summary) : Prop where
  held : (∀ o ∈ a.outcomes, o.status = .held) →
    b.outcomes = a.outcomes ∧ a.failures = [] ∧ b.failures = []
  first : ∀ j, a.outcomes.findIdx? (·.status != .held) = some j →
    b.outcomes = a.outcomes.take (j + 1) ∧ ∃ f, b.failures = [f] ∧ a.failures.head? = some f

section

variable {os : List Outcome} (hheld : ∀ o ∈ os, o.status = .held)

include hheld

theorem Outcome.findIdx?_of_held : os.findIdx? (·.status != .held) = none := by
  rw [List.findIdx?_eq_none_iff]
  simpa using hheld

/-- The first outcome that did not hold stands right behind those that did. -/
theorem Outcome.findIdx?_append_of_held {o : Outcome} (ho : o.status ≠ .held)
    (more : List Outcome) :
    (os ++ o :: more).findIdx? (·.status != .held) = some os.length := by
  rw [List.findIdx?_append, findIdx?_of_held hheld, List.findIdx?_cons]
  simp [ho]

end

/-- The summary of the twin that raises is that of the other up to the first failure. -/
theorem Session.Parted.cutAtFailure {s t s' t' : Session} {fault : Option Fault}
    (h : s.Parted t s' (fault, t')) (hs : s.outcomes = [] ∧ s.failures = [])
    (ht : t.outcomes = [] ∧ t.failures = []) : s'.summary.CutAtFailure t'.summary := by
  cases h with
  | never os hheld hs' ht' hsf htf =>
    rw [hs.1, List.nil_append] at hs'
    rw [ht.1, List.nil_append] at ht'
    refine ⟨fun _ => ⟨ht'.trans hs'.symm, hsf.trans hs.2, htf.trans ht.2⟩, fun j hj => ?_⟩
    have hnone : s'.outcomes.findIdx? (·.status != .held) = none :=
      hs' ▸ Outcome.findIdx?_of_held hheld
    cases hnone.symm.trans hj
  | @after _ o f _ _ os more fs hheld ho hs' ht' hsf htf =>
    rw [hs.1, List.nil_append] at hs'
    rw [hs.2, List.nil_append] at hsf
    rw [ht.1, List.nil_append] at ht'
    rw [ht.2, List.nil_append] at htf
    constructor
    · intro hall
      exact absurd (hall o (by simp [Session.summary, hs'])) ho
    · intro j hj
      have hfirst : s'.outcomes.findIdx? (·.status != .held) = some os.length :=
        hs' ▸ Outcome.findIdx?_append_of_held hheld ho more
      obtain rfl := Option.some.inj (hfirst.symm.trans hj)
      refine ⟨?_, f, htf, ?_⟩
      · show t'.outcomes = s'.outcomes.take _
        rw [ht', hs', List.take_length_add_append]
        rfl
      · show s'.failures.head? = _
        rw [hsf]
        rfl

end Conformance
