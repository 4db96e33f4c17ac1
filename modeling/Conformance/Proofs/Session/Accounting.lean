import Conformance.Proofs.Session.Declare

/-!
# Conformance.Proofs.Session.Accounting

The account that a session keeps, over every sequence of operations on it.

1. One operation keeps the account `Balanced` (`Balanced.perform`): every
   outcome that is not held, and every error that was accounted for, is one
   failure, which the reporter has received as well; every outcome that is
   held is one success.
2. An error that a session raises is its own from then on
   (`Later.isOwn`), so it is accounted for once only.

Runs follow by induction on the operations.
-/

namespace Conformance

namespace Session

/-! ## Operations -/

/-- An operation on a session. -/
inductive Operation
  /-- declares an invariant over functions of a library -/
  | declare (lib : Library) (d : Declaration)
  /-- accounts for an error that was caught -/
  | record (e : Error) (ticket : Option Ticket)

/-- What an operation comes to. -/
inductive Reply
  | declared (told : Run Report)
  | recorded (told : Run (Option Failure))

/-- What is declared can be told, if it is not refused. -/
def Operation.Tellable (defaultTrials : Int) : Operation → Prop
  | declare lib d => ∀ i, d.invariant lib.predicate defaultTrials = .ok i → i.Tellable
  | record .. => True

def Operation.perform (s : Session) : Operation → Reply × Session
  | declare lib d => (.declared (Session.declare lib d s).1, (Session.declare lib d s).2)
  | record e ticket => (.recorded (recordError e ticket s).1, (recordError e ticket s).2)

/-- Performs operations one after the other. -/
def performAll (s : Session) : List Operation → List Reply × Session
  | [] => ([], s)
  | op :: ops =>
    let (reply, s) := op.perform s
    let (replies, s) := performAll s ops
    (reply :: replies, s)

/-- Whether an error was accounted for. -/
def Reply.isRecord : Reply → Bool
  | recorded ⟨.ok (some _), _⟩ => true
  | _ => false

/-- How many errors were accounted for. -/
def records (replies : List Reply) : Nat := (replies.filter Reply.isRecord).length

/-- The errors accounted for are counted reply by reply. -/
theorem records_cons (reply : Reply) (replies : List Reply) :
    records (reply :: replies) = records [reply] + records replies := by
  unfold records
  rw [← List.length_append, ← List.filter_append, List.singleton_append]

/-! ## The account -/

/-- The account of a session: `recorded` errors were accounted for besides
what was declared. -/
structure Balanced (s : Session) (recorded : Nat) : Prop where
  reporter : ∃ successes, s.reporter = .collect s.failures successes ∧
    s.summary.heldCount = successes.length
  failures : s.failures.length = (s.outcomes.filter (·.status != .held)).length + recorded

variable {s s' : Session} {n : Nat}

/-- A session starts with nothing to account for. -/
theorem balanced_start (id : Nat) (runId : String) (settings : Settings) (seed : Option Int)
    (fresh : Int) : (start id runId settings (.collect [] []) seed fresh).Balanced 0 :=
  ⟨⟨[], rfl, rfl⟩, rfl⟩

/-- To run the trials of a declaration changes nothing in the account. -/
theorem Balanced.ran (h : s.Balanced n) (lib : Library) (d : Declaration) :
    (s.ran lib d).Balanced n :=
  ⟨h.reporter, h.failures⟩

/-- An outcome that held goes with a success. -/
theorem Balanced.held (h : s.Balanced n) {o : Outcome} (ho : o.status = .held) (report : Report) :
    ((s.withOutcome o).withSuccess report).Balanced n := by
  obtain ⟨⟨successes, hreporter, hcount⟩, hfailures⟩ := h
  refine ⟨⟨successes ++ [report], ?_, ?_⟩, ?_⟩
  · show s.reporter.withSuccess report = .collect s.failures (successes ++ [report])
    rw [hreporter]
    rfl
  · show ((s.outcomes ++ [o]).filter (·.status == .held)).length = _
    rw [List.filter_append, List.length_append, List.length_append]
    simp only [summary, Summary.heldCount] at hcount
    simp [hcount, ho]
  · show s.failures.length = ((s.outcomes ++ [o]).filter (·.status != .held)).length + n
    simp [hfailures, ho]

/-- An outcome that did not hold goes with a failure. -/
theorem Balanced.unheld (h : s.Balanced n) {o : Outcome} (ho : o.status ≠ .held) (f : Failure) :
    ((s.withOutcome o).withFailure f).Balanced n := by
  obtain ⟨⟨successes, hreporter, hcount⟩, hfailures⟩ := h
  refine ⟨⟨successes, ?_, ?_⟩, ?_⟩
  · show s.reporter.withFailure f = .collect (s.failures ++ [f]) successes
    rw [hreporter]
    rfl
  · show ((s.outcomes ++ [o]).filter (·.status == .held)).length = _
    simp only [summary, Summary.heldCount] at hcount
    simp [hcount, ho]
  · show (s.failures ++ [f]).length = ((s.outcomes ++ [o]).filter (·.status != .held)).length + n
    simp [hfailures, ho]
    omega

/-- An error that is recorded is one failure more without an outcome. -/
theorem Balanced.recorded (h : s.Balanced n) (f : Failure) :
    (s.withFailure f).Balanced (n + 1) := by
  obtain ⟨⟨successes, hreporter, hcount⟩, hfailures⟩ := h
  refine ⟨⟨successes, ?_, hcount⟩, ?_⟩
  · show s.reporter.withFailure f = .collect (s.failures ++ [f]) successes
    rw [hreporter]
    rfl
  · show (s.failures ++ [f]).length = _
    rw [List.length_append, List.length_singleton, hfailures]
    rfl

/-- One operation keeps the account balanced. -/
theorem Balanced.perform (h : s.Balanced n) {op : Operation}
    (hop : op.Tellable s.runner.checking.defaultTrials) :
    (op.perform s).2.Balanced (n + records [(op.perform s).1]) := by
  cases op with
  | declare lib d =>
    have hdeclared := declared_declare lib d s hop
    show (Session.declare lib d s).2.Balanced n
    generalize Session.declare lib d s = ended at hdeclared
    cases hdeclared with
    | fault => exact h.ran lib d
    | held _ _ hstatus => exact (h.ran lib d).held hstatus _
    | kept _ _ hstatus => exact (h.ran lib d).unheld hstatus _
    | raised _ _ hstatus =>
      obtain ⟨hreporter, hfailures⟩ := (h.ran lib d).unheld hstatus _
      exact ⟨hreporter, hfailures⟩
  | record e ticket =>
    have hrecorded := recorded_recordError e ticket s
    show (recordError e ticket s).2.Balanced
      (n + records [.recorded (recordError e ticket s).1])
    generalize recordError e ticket s = ended at hrecorded
    cases hrecorded with
    | own => exact h
    | refused => exact h
    | kept => exact h.recorded _

/-! ## Errors of the session's own -/

/-- No operation makes a session forget what stays in it. -/
theorem later_perform {op : Operation} (hop : op.Tellable s.runner.checking.defaultTrials) :
    s.Later (op.perform s).2 := by
  cases op with
  | declare lib d => exact later_declare hop
  | record e ticket => exact later_recordError s e ticket

/-- An error that a report was raised as is the session's own. -/
theorem isOwn_of_declare {lib : Library} {d : Declaration} {e : Error} {ticket : Option Ticket}
    (hd : (Operation.declare lib d).Tellable s.runner.checking.defaultTrials)
    (h : (Session.declare lib d s).1.outcome = .error (.raised e ticket)) (he : e.isVerdict) :
    (Session.declare lib d s).2.isOwn ticket := by
  have hdeclared := declared_declare lib d s hd
  generalize Session.declare lib d s = ended at hdeclared h
  cases hdeclared with
  | fault hfault =>
    cases h
    exact absurd he (Runner.not_isVerdict_of_fault hd hfault)
  | held => cases h
  | kept => cases h
  | raised =>
    cases h
    exact isOwn_raised (((s.ran lib d).withOutcome _).withFailure _)

/-! ## Sequences of operations -/

theorem performAll_cons (s : Session) (op : Operation) (ops : List Operation) :
    s.performAll (op :: ops) =
      ((op.perform s).1 :: ((op.perform s).2.performAll ops).1,
        ((op.perform s).2.performAll ops).2) := rfl

/-- One of the operations was a declaration whose report was raised as the error. -/
def RaisedIn (ops : List Operation) (replies : List Reply) (e : Error) (ticket : Option Ticket) :
    Prop :=
  ∃ lib d told, (Operation.declare lib d, Reply.declared told) ∈ ops.zip replies ∧
    told.outcome = .error (.raised e ticket) ∧ e.isVerdict

/-- Operations in a row keep the account adding up, and every error that they
raised is known as one of the session's own. -/
theorem performAll_keeps {ops : List Operation} (h : s.Balanced n)
    (hops : ∀ op ∈ ops, op.Tellable s.runner.checking.defaultTrials) :
    (s.performAll ops).2.Balanced (n + records (s.performAll ops).1) ∧
      s.Later (s.performAll ops).2 ∧
      ∀ e ticket, RaisedIn ops (s.performAll ops).1 e ticket →
        (s.performAll ops).2.isOwn ticket := by
  induction ops generalizing s n with
  | nil =>
    refine ⟨h, .refl s, ?_⟩
    rintro e ticket ⟨lib, d, told, hmem, -⟩
    cases hmem
  | cons op ops ih =>
    have hop := hops op List.mem_cons_self
    have hlater := s.later_perform hop
    have hrest : ∀ op' ∈ ops, op'.Tellable (op.perform s).2.runner.checking.defaultTrials := by
      rw [hlater.checking]
      exact fun op' hmem => hops op' (List.mem_cons_of_mem op hmem)
    obtain ⟨hbalanced, hlater', hown⟩ := ih (h.perform hop) hrest
    rw [performAll_cons]
    refine ⟨?_, hlater.trans hlater', ?_⟩
    · rw [records_cons, ← Nat.add_assoc]
      exact hbalanced
    · rintro e ticket ⟨lib, d, told, hmem, houtcome, he⟩
      rcases List.mem_cons.mp hmem with heq | hmem
      · obtain ⟨rfl, hreply⟩ := Prod.mk.inj heq
        obtain rfl := Reply.declared.inj hreply
        exact hlater'.isOwn (isOwn_of_declare hop houtcome he)
      · exact hown e ticket ⟨lib, d, told, hmem, houtcome, he⟩

/-- The account of a session adds up after every sequence of operations.

1. What it keeps as failures its reporter has received as failures, and it has
   received one success for each invariant that held.
2. There is one failure for each invariant that did not hold and for each
   error that was accounted for.
3. If there is no failure, every invariant held.
4. An error that a report was raised as is accounted for no second time,
   however often it is caught and whatever was done in between. -/
theorem account_adds_up (id : Nat) (runId : String) (settings : Settings) (seed : Option Int)
    (fresh : Int) (ops : List Operation)
    (hops : ∀ op ∈ ops, op.Tellable settings.checking.defaultTrials) :
    let ended := (start id runId settings (.collect [] []) seed fresh).performAll ops
    let s := ended.2
    (∃ successes, s.reporter = .collect s.summary.failures successes ∧
      s.summary.heldCount = successes.length) ∧
      s.summary.failures.length = (s.summary.outcomes.filter (·.status != .held)).length +
        records ended.1 ∧
      (s.summary.ok = true → ∀ o ∈ s.summary.outcomes, o.status = .held) ∧
      ∀ e ticket, RaisedIn ops ended.1 e ticket → recordError e ticket s = (pure none, s) := by
  intro ended s
  obtain ⟨⟨hreporter, hfailures⟩, -, hown⟩ :=
    performAll_keeps (balanced_start id runId settings seed fresh) hops
  rw [Nat.zero_add] at hfailures
  refine ⟨hreporter, hfailures, fun hok o ho => ?_, fun e ticket hraised => ?_⟩
  · have hnone : (s.outcomes.filter (·.status != .held)).length = 0 := by
      have hempty : s.failures = [] := List.isEmpty_iff.mp hok
      rw [hempty] at hfailures
      exact (Nat.add_eq_zero_iff.mp hfailures.symm).1
    by_contra hunheld
    have hmem : o ∈ s.outcomes.filter (·.status != .held) :=
      List.mem_filter.mpr ⟨ho, by simpa using hunheld⟩
    rw [List.length_eq_zero_iff.mp hnone] at hmem
    cases hmem
  · exact recordError_of_own (hown e ticket hraised)

/-- A library with a predicate that no tuple satisfies. -/
def neverLibrary : Library := { definitions := #[.host fun _ => pure (.fresh (.bool false))] }

/-- The declaration that all tuples satisfy it. -/
def neverDeclared : Declaration :=
  ⟨.descriptor (.boolean none), .function (.defined 0 (some "never") (some "never") "<never>"),
    .int 1, ""⟩

theorem neverDeclared_tellable (defaultTrials : Int) :
    (Operation.declare neverLibrary neverDeclared).Tellable defaultTrials := by
  intro i hi
  obtain rfl : _ = i := Except.ok.inj hi
  refine ⟨?_, fun values e ticket h => ?_⟩
  · simp [Descriptor.WellFormed, Descriptor.NameWellFormed]
  · cases h

theorem account_adds_up_never :
    let settings : Settings := { checking := { failFast := true } }
    let ops := [Operation.declare neverLibrary neverDeclared]
    let ended := (start 0 "never" settings (.collect [] []) none 0).performAll ops
    (∀ op ∈ ops, op.Tellable settings.checking.defaultTrials) ∧
      ended.2.summary.failures.length = 1 ∧
      ∃ e ticket, RaisedIn ops ended.1 e ticket ∧
        recordError e ticket ended.2 = (pure none, ended.2) := by
  intro settings ops ended
  have hops : ∀ op ∈ ops, op.Tellable settings.checking.defaultTrials :=
    List.forall_mem_singleton.mpr (neverDeclared_tellable _)
  have hown : ∀ e ticket, RaisedIn ops ended.1 e ticket →
      recordError e ticket ended.2 = (pure none, ended.2) :=
    (account_adds_up 0 "never" settings none 0 ops hops).2.2.2
  have hstatuses : ended.2.outcomes.map (·.status) = [.violated] := by decide +kernel
  have hdeclared := declared_declare neverLibrary neverDeclared
    (start 0 "never" settings (.collect [] []) none 0) (neverDeclared_tellable _)
  generalize hended : Session.declare neverLibrary neverDeclared
    (start 0 "never" settings (.collect [] []) none 0) = declared at hdeclared
  have hperformed : ended = ([.declared declared.1], declared.2) := by
    rw [← hended]
    rfl
  rw [hperformed] at hstatuses hown ⊢
  cases hdeclared with
  | fault => cases hstatuses
  | held h ho hstatus =>
    obtain ⟨hviolated, -⟩ := List.cons.inj hstatuses
    cases hstatus.symm.trans hviolated
  | kept _ _ _ _ hfast => cases hfast
  | @raised effects _ _ _ e _ _ _ _ _ hverdict =>
    have hraised : RaisedIn ops
        [.declared ⟨.error (.raised e (some ⟨0, 0⟩)), effects⟩] e (some ⟨0, 0⟩) :=
      ⟨neverLibrary, neverDeclared, _, List.mem_singleton_self _, rfl, hverdict⟩
    exact ⟨hops, rfl, e, some ⟨0, 0⟩, hraised, hown e (some ⟨0, 0⟩) hraised⟩

end Session

end Conformance
