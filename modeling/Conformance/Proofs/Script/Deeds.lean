import Conformance.Proofs.Script.FailFast
import Conformance.Proofs.Session.Deeds

/-!
# Conformance.Proofs.Script.Deeds

What a script does to the session that a check opens for it.

`Statement.deeds` reads off a statement what it does to the session in front,
if that session is active; what it does to other sessions, such as one of its
own, is left out.  Running the statement performs these deeds and leaves the
sessions behind as they are (`Statement.frames_run`).  So the session of a
check ends as `CheckRequest.left`, and the check ends in one of four ways
(`CheckRequest.ended_run`).
-/

namespace Conformance

open Session

/-- A computation in a session of its own that leaves the sessions behind it
as they are. -/
theorem Workspace.within_of_frames {α : Type} {w : Workspace} {settings : Settings}
    {reporter : Reporter} {seed : Option Int} {x : Act Workspace α} {s' : Session}
    (h : (x (w.entered (Session.start w.opened w.runId settings reporter seed w.freshSeed))).2.frames =
      ⟨s', true⟩ :: w.frames) :
    let ended := x (w.entered (Session.start w.opened w.runId settings reporter seed w.freshSeed))
    within settings reporter seed true x w =
      (pure (ended.1, s'), { ended.2 with frames := w.frames }) := by
  intro ended
  unfold within
  show (pure (ended.1, ((ended.2.frames.head?.map (·.session)).getD _)),
    { ended.2 with frames := ended.2.frames.drop 1 }) = _
  rw [h]
  rfl

/-! ## Statements -/

namespace Statement

/-- What a statement does to the session in front. -/
def deeds : Statement → Workspace → List Deed
  | declare _ d, w => [.operate (.declare w.library d)]
  | record e, _ => [.operate (.record e none)]
  | recordCaught st, w =>
    st.deeds w ++
      match (st.run w).1.outcome with
      | .error (.raised e ticket) => [.operate (.record e ticket)]
      | _ => []
  | recordFailure f, _ => [.keep f]
  | _, _ => []

/-- Whether a statement leaves it to the check to account for errors. -/
def leavesAccount : Statement → Bool
  | record _ | recordCaught _ | recordFailure _ => false
  | _ => true

section

variable {α β : Type} {w : Workspace} {s : Session} {rest : List Frame}

/-- In the session of a check, what is done is done to the innermost frame. -/
theorem inSession_of_frames (hw : w.frames = ⟨s, true⟩ :: rest) (x : Act Session α) :
    Workspace.inSession x w = ((x s).1, { w with frames := ⟨(x s).2, true⟩ :: rest }) := by
  unfold Workspace.inSession
  rw [hw]

/-- While the frame of the check is the innermost, its session is the current one. -/
theorem inCurrent_of_frames (hw : w.frames = ⟨s, true⟩ :: rest) (x : Act Session α) :
    Workspace.inCurrent x w = Workspace.inSession x w := by
  unfold Workspace.inCurrent
  rw [hw]
  rfl

/-- Looking into the session in front changes nothing. -/
theorem inSession_get_bind (hw : w.frames = ⟨s, true⟩ :: rest) (f : Session → Act Workspace β) :
    (Workspace.inSession get >>= f) w = f s w := by
  have hget : Workspace.inSession get w = (Run.pure s, w) := by
    rw [inSession_of_frames hw]
    show (Run.pure s, { w with frames := ⟨s, true⟩ :: rest }) = (Run.pure s, w)
    rw [← hw]
  rw [Act.bind_of_ok (by rw [hget]; rfl), hget]
  rfl

theorem inCurrent_get_bind (hw : w.frames = ⟨s, true⟩ :: rest) (f : Session → Act Workspace β) :
    (Workspace.inCurrent get >>= f) w = f s w := by
  rw [← inSession_get_bind hw f, Act.bind_apply, Act.bind_apply, inCurrent_of_frames hw]

end

mutual
/-- A statement does its deeds to the session in front, if it is active, and
nothing to the sessions behind it. -/
theorem frames_run : (st : Statement) → (w : Workspace) → (s : Session) → (rest : List Frame) →
    w.frames = ⟨s, true⟩ :: rest →
    (st.run w).2.frames = ⟨s.performs (st.deeds w), true⟩ :: rest
  | declare current d, w, s, rest, hw => by
      have hfirst : (declare current d).run w =
          (Workspace.inSession (Session.declare w.library d) >>= fun r => pure (.report r)) w := by
        cases current with
        | false => rw [run, Act.get_bind, if_neg Bool.false_ne_true]
        | true =>
          rw [run, Act.get_bind, if_pos rfl, Act.bind_apply, Act.bind_apply,
            inCurrent_of_frames hw]
      rw [hfirst, Act.bind_pure_apply, inSession_of_frames hw]
      rfl
  | annotate signature implementation name, w, s, rest, hw => by
      rw [run, Act.get_bind]
      rcases w.library.wrapValues signature implementation with e | wrapped
      · exact hw
      · exact hw
  | call name x, w, s, rest, hw => by
      rw [run, Act.get_bind, Act.bind_pure_apply]
      exact hw
  | check d v, w, s, rest, hw => by
      rw [run]
      rcases d.variant with e | d'
      · exact hw
      · rw [Act.ofExcept_ok_bind, Act.bind_pure_apply]
        exact hw
  | build d, w, s, rest, hw => by
      rw [run, Act.bind_pure_apply]
      exact hw
  | raise e, w, s, rest, hw => hw
  | record e, w, s, rest, hw => by
      rw [run, Act.bind_pure_apply, inSession_of_frames hw]
      rfl
  | recordCaught st, w, s, rest, hw => by
      have hst := frames_run st w s rest hw
      rw [run, Act.hold_bind, Act.emit_bind, deeds, performs_append]
      rcases (st.run w).1.outcome with fault | r
      · cases fault with
        | unfinished => exact hst
        | raised e ticket =>
          show ((Workspace.inSession (recordError e ticket) >>= _) _).2.frames = _
          rw [Act.bind_pure_apply, inSession_of_frames hst]
          rfl
      · exact hst
  | recordFailure f, w, s, rest, hw => by
      rw [run, Act.bind_pure_apply, inSession_of_frames hw]
      rfl
  | currentSeed, w, s, rest, hw => by
      rw [run, inCurrent_get_bind hw]
      exact hw
  | currentSummary, w, s, rest, hw => by
      rw [run, inCurrent_get_bind hw]
      exact hw
  | summary target, w, s, rest, hw => by
      rw [run, inSession_get_bind hw]
      exact hw
  | reported, w, s, rest, hw => by
      rw [run, inSession_get_bind hw]
      cases s.reporter with
      | log => exact hw
      | collect failures successes => exact hw
  | settings, w, s, rest, hw => by
      rw [run, inSession_get_bind hw]
      exact hw
  | replay descriptors trialSeed, w, s, rest, hw => by
      rw [run, inSession_get_bind hw]
      cases s.runner.replay descriptors trialSeed with
      | ok values => exact hw
      | error fault => exact hw
  | use seed given reporter body, w, s, rest, hw => by
      rw [run, Act.get_bind]
      rcases Settings.ofValue w.environment given with e | settings
      · exact hw
      · let inner :=
          runEach body
            (w.entered (Session.start w.opened w.runId settings reporter seed w.freshSeed))
        obtain ⟨s', hbody⟩ := frames_runEach body
          (w.entered (Session.start w.opened w.runId settings reporter seed w.freshSeed)) _ w.frames
          rfl
        have hwithin := Workspace.within_of_frames hbody
        rw [Act.ofExcept_ok_bind, Act.bind_of_ok (by rw [hwithin]; rfl), hwithin]
        show ((match inner.1.outcome with
          | .ok steps => pure (.used true steps)
          | .error fault => throw fault : Act Workspace Result)
            { inner.2 with frames := w.frames }).2.frames = _
        cases inner.1.outcome with
        | ok steps => exact hw
        | error fault => exact hw
  | skip, w, s, rest, hw => hw

/-- Statements that run each by itself leave the sessions behind as they are. -/
theorem frames_runEach : (sts : List Statement) → (w : Workspace) → (s : Session) →
    (rest : List Frame) → w.frames = ⟨s, true⟩ :: rest →
    ∃ s', (runEach sts w).2.frames = ⟨s', true⟩ :: rest
  | [], w, s, rest, hw => ⟨s, hw⟩
  | st :: sts, w, s, rest, hw => by
      have hst := frames_run st w s rest hw
      obtain ⟨s', hsts⟩ := frames_runEach sts (st.run w).2 _ rest hst
      refine ⟨s', ?_⟩
      rw [runEach, Act.hold_bind, Act.bind_pure_apply]
      exact hsts
end

/-- A statement that leaves the account to the check makes no note of its own. -/
theorem notes_deeds (st : Statement) (hst : st.leavesAccount) (w : Workspace) (s : Session) :
    s.notes (st.deeds w) = [] := by
  cases st with
  | record | recordCaught | recordFailure => cases hst
  | _ => rfl

end Statement

/-! ## Scripts -/

namespace Script

/-- What a script does to the session in front: the deeds of its statements,
up to the first that raises. -/
def deeds : Script → Workspace → List Deed
  | [], _ => []
  | st :: sts, w =>
    st.deeds w ++
      match (st.run w).1.outcome with
      | .ok _ => deeds sts (st.run w).2
      | .error _ => []

/-- A script always comes to its results, with the fault that stopped it if one did. -/
theorem exists_run (script : Script) (w : Workspace) :
    ∃ results fault effects, (script.run w).1 = ⟨.ok (results, fault), effects⟩ := by
  induction script generalizing w with
  | nil => exact ⟨[], none, [], rfl⟩
  | cons st sts ih =>
    rcases h : (st.run w).1.outcome with fault | r
    · rw [run_cons_error h]
      exact ⟨_, _, _, rfl⟩
    · obtain ⟨results, fault, effects, hrest⟩ := ih (st.run w).2
      rw [run_cons_ok h, hrest]
      exact ⟨_, _, _, rfl⟩

/-- A script does its deeds to the session of its check and leaves the frames below. -/
theorem frames_run (script : Script) {w : Workspace} {s : Session} {rest : List Frame}
    (hw : w.frames = ⟨s, true⟩ :: rest) :
    (script.run w).2.frames = ⟨s.performs (script.deeds w), true⟩ :: rest := by
  induction script generalizing w s with
  | nil => exact hw
  | cons st sts ih =>
    have hst := Statement.frames_run st w s rest hw
    rw [deeds, performs_append]
    rcases h : (st.run w).1.outcome with fault | r
    · rw [run_cons_error h]
      exact hst
    · rw [run_cons_ok h]
      exact ih hst

/-- After a statement that comes to a result, the deeds of the others follow. -/
theorem deeds_cons_ok (st : Statement) {w : Workspace} {r : Result}
    (h : (st.run w).1.outcome = .ok r) (sts : Script) :
    deeds (st :: sts) w = st.deeds w ++ deeds sts (st.run w).2 := by
  rw [deeds, h]

/-- A statement that stops the script is the last to do anything. -/
theorem deeds_cons_error (st : Statement) {w : Workspace} {fault : Fault}
    (h : (st.run w).1.outcome = .error fault) (sts : Script) :
    deeds (st :: sts) w = st.deeds w := by
  rw [deeds, h]
  exact List.append_nil _

section

variable {w : Workspace} {s : Session} {d : Declaration}

/-- A declaration that is reported on is followed by the next one. -/
theorem deeds_declarations_ok {report : Report}
    (h : (Session.declare w.library d s).1.outcome = .ok report) (ds : List Declaration) :
    (declarations (d :: ds)).deeds (w.entered s) =
      .operate (.declare w.library d) ::
        (declarations ds).deeds (w.entered (Session.declare w.library d s).2) := by
  have hrun := Statement.run_declare w s d
  rw [Run.bind_of_ok h] at hrun
  refine (deeds_cons_ok (.declare true d) (by rw [hrun]; rfl) (declarations ds)).trans ?_
  rw [hrun]
  rfl

/-- A declaration that raises is the last. -/
theorem deeds_declarations_error {fault : Fault}
    (h : (Session.declare w.library d s).1.outcome = .error fault) (ds : List Declaration) :
    (declarations (d :: ds)).deeds (w.entered s) = [.operate (.declare w.library d)] := by
  have hrun := Statement.run_declare w s d
  rw [Run.bind_of_error h] at hrun
  exact deeds_cons_error (.declare true d) (by rw [hrun]) (declarations ds)

end

/-- A script that leaves it to the check to account for errors hands in no failure. -/
theorem notes_deeds (script : Script) (hscript : script.all Statement.leavesAccount) (w : Workspace)
    (s : Session) : s.notes (script.deeds w) = [] := by
  induction script generalizing w s with
  | nil => rfl
  | cons st sts ih =>
    rw [List.all_cons, Bool.and_eq_true] at hscript
    rw [deeds, notes_append, st.notes_deeds hscript.1, List.nil_append]
    cases (st.run w).1.outcome with
    | ok r => exact ih hscript.2 (st.run w).2 _
    | error fault => rfl

end Script

/-! ## Checks -/

namespace CheckRequest

variable (c : CheckRequest) (script : Script) (w : Workspace)

/-- What leaves the script of a check, or keeps it from being loaded. -/
def escaped : Option Fault :=
  match (load c.target script (w.entered (c.opened w))).1.outcome with
  | .ok (_, fault) => fault
  | .error fault => some fault

/-- What the script does to the session of the check. -/
def deeds : List Deed :=
  if isLoadable c.target then script.deeds (w.entered (c.opened w)) else []

/-- The session of the check as the script leaves it. -/
def left : Session := (c.opened w).performs (c.deeds script w)

/-- The reports on what the script declares in the session of the check. -/
def reports : List Report := (c.opened w).reports (c.deeds script w)

/-- The failures that the script hands to the session of the check. -/
def notes : List Failure := (c.opened w).notes (c.deeds script w)

/-- A module that is loaded leaves the session that its deeds lead to. -/
theorem load_entered : ∃ results effects w',
    load c.target script (w.entered (c.opened w)) =
      (⟨.ok (results, c.escaped script w), effects⟩, w') ∧
      w'.frames = ⟨c.left script w, true⟩ :: w.frames := by
  unfold escaped left deeds load
  by_cases htarget : isLoadable c.target
  · rw [if_pos htarget, if_pos htarget]
    obtain ⟨results, fault, effects, hrun⟩ := script.exists_run (w.entered (c.opened w))
    refine ⟨results, effects, _, Prod.ext ?_ rfl, script.frames_run rfl⟩
    rw [hrun]
  · rw [if_neg htarget, if_neg htarget]
    exact ⟨[], [], _, rfl, rfl⟩

variable {c script w}

/-- How a check ends: its script came to its end, or what left the script was
accounted for, could not be, or passed through. -/
inductive Ended (c : CheckRequest) (script : Script) (w : Workspace) :
    Except Fault (Summary × List Result × Bool) → Prop
  | complete {results} (h : c.escaped script w = none) :
    Ended c script w (.ok ((c.left script w).summary, results, true))
  | recorded {results e ticket found} (h : c.escaped script w = some (.raised e ticket))
    (he : e.isOrdinary)
    (hrecord : (recordError e ticket (c.left script w)).1.outcome = .ok found) :
    Ended c script w (.ok ((recordError e ticket (c.left script w)).2.summary, results, false))
  | refused {e ticket fault} (h : c.escaped script w = some (.raised e ticket))
    (he : e.isOrdinary)
    (hrecord : (recordError e ticket (c.left script w)).1.outcome = .error fault) :
    Ended c script w (.error fault)
  | passed {fault} (h : c.escaped script w = some fault) (hfault : fault.isOrdinary = false) :
    Ended c script w (.error fault)

/-- The check closes its session behind the script, whatever the script did. -/
theorem run_of_frames {s' : Session}
    (h : (runInside c.target script (w.entered (c.opened w))).2.frames = ⟨s', true⟩ :: w.frames) :
    (run c script w).1 = (runInside c.target script (w.entered (c.opened w))).1 >>= fun ended =>
      pure (s'.summary, ended.1, ended.2) := by
  have hwithin := Workspace.within_of_frames h
  unfold run
  rw [Act.bind_of_ok (by rw [hwithin]; rfl), hwithin]
  show (Run.after [] ((liftM (runInside c.target script (w.entered (c.opened w))).1 >>= _ :
    Act Workspace _) _).1) = _
  rw [Act.bind_pure_apply]
  rfl

/-- Every check ends in one of these ways. -/
theorem ended_run (c : CheckRequest) (script : Script) (w : Workspace) :
    Ended c script w (c.run script w).1.outcome := by
  obtain ⟨results, effects, w', hload, hframes⟩ := load_entered c script w
  have hinside : runInside c.target script (w.entered (c.opened w)) = _ :=
    Act.bind_of_ok (by rw [hload]) _
  rw [hload] at hinside
  rcases hescaped : c.escaped script w with _ | _ | _
  · rw [hescaped] at hinside
    rw [run_of_frames (by rw [hinside]; exact hframes), hinside]
    exact .complete hescaped
  · next e ticket =>
    rw [hescaped] at hinside
    by_cases he : e.isOrdinary
    · simp only [he, if_true] at hinside
      have hrecord := Act.bind_pure_apply (Workspace.inSession (recordError e ticket))
        (fun _ => (results, false)) w'
      rw [Statement.inSession_of_frames hframes] at hrecord
      rw [hrecord] at hinside
      rw [run_of_frames (by rw [hinside]), hinside, Run.outcome_bind, Run.outcome_after,
        Run.outcome_bind]
      rcases hfound : (recordError e ticket (c.left script w)).1.outcome with fault | found
      · exact .refused hescaped he hfound
      · exact .recorded hescaped he hfound
    · simp only [he] at hinside
      rw [run_of_frames (by rw [hinside]; exact hframes), hinside]
      exact .passed hescaped (by simpa [Fault.isOrdinary] using he)
  · rw [hescaped] at hinside
    rw [run_of_frames (by rw [hinside]; exact hframes), hinside]
    exact .passed hescaped rfl

end CheckRequest

/-- No draw was given up in the script of a check that completes. -/
theorem CheckRequest.escaped_ne_unfinished {c : CheckRequest} {script : Script} {w : Workspace}
    (h : (c.run script w).1.Completes) : c.escaped script w ≠ some .unfinished := by
  intro hescaped
  have hended := c.ended_run script w
  unfold Run.Completes at h
  generalize (c.run script w).1.outcome = outcome at hended h
  cases hended with
  | complete hnone => cases hnone.symm.trans hescaped
  | recorded hraised => cases hraised.symm.trans hescaped
  | refused hraised => cases hraised.symm.trans hescaped
  | passed hfault =>
    obtain rfl := Option.some.inj (hfault.symm.trans hescaped)
    exact h rfl

/-! ## The account of a check -/

/-- The place that an error tells, if it tells one. -/
def Error.place? : Error → Option Path
  | validation m _ | argument m .. | result m .. => some m.path
  | unsupported _ path => some path
  | _ => none

/-- An error can be told as a failure if its place can be written. -/
theorem Failure.exists_ofError {e : Error} (label : String)
    (he : ∀ path, e.place? = some path → path.all Segment.isNameOrInteger) :
    ∃ f, ofError e label = .ok f := by
  cases e with
  | conformance | descriptor | violation | foreign | intrinsic | settings => exact ⟨_, rfl⟩
  | unsupported message path =>
    obtain ⟨text, htext⟩ := Path.exists_render (he path rfl)
    simp only [ofError, Error.mismatch?, htext, bind, Except.bind]
    exact ⟨_, rfl⟩
  | validation m | argument m | result m =>
    obtain ⟨text, htext⟩ := Path.exists_render (he m.path rfl)
    simp only [ofError, Error.mismatch?, htext, bind, Except.bind]
    exact ⟨_, rfl⟩

namespace CheckRequest

variable {c : CheckRequest} {script : Script} {w : Workspace}

/-- An error that leaves a script counts as a failure: it is kept as one, or
the session has raised it on a report that is not held. -/
theorem failures_ne_nil_of_recorded {s s' : Session} {rs : List Report} {fs : List Failure}
    {e : Error} {ticket : Option Ticket} {found : Option Failure} (h : s.Accounted s' rs fs)
    (hs : s.failures = []) (hraised : s.raised = 0)
    (hrecord : (recordError e ticket s').1.outcome = .ok found) :
    (recordError e ticket s').2.failures ≠ [] := by
  have hrecorded := recorded_recordError e ticket s'
  generalize recordError e ticket s' = ended at hrecorded hrecord
  cases hrecorded with
  | refused => cases hrecord
  | kept => exact List.append_ne_nil_of_right_ne_nil _ (List.cons_ne_nil _ _)
  | own hown =>
    intro hnil
    have hheld := ((h.failures_eq_nil_iff hs).mp hnil).1
    have hlt : s.raised < s'.raised := by
      cases ticket with
      | none => cases hown
      | some t =>
        simp only [isOwn, Bool.and_eq_true, decide_eq_true_eq] at hown
        omega
    obtain ⟨r, hr, hstatus⟩ := h.raised hlt
    exact hstatus (hheld r hr)

/-- The account of a check whose script came to its end or was left by an error
of the session's own or one that can be told: an outcome for each report, and
no failure exactly if every report is held, nothing left the script, and the
script handed in nothing. -/
theorem exists_summary
    (hasked : ∀ deed ∈ c.deeds script w, deed.Tellable c.sessionSettings.checking.defaultTrials)
    (hescaped : ∀ fault, c.escaped script w = some fault → ∃ e ticket, fault = .raised e ticket ∧
      e.isOrdinary ∧ ((c.left script w).isOwn ticket ∨
        ∀ path, e.place? = some path → path.all Segment.isNameOrInteger)) :
    ∃ summary results complete,
      (c.run script w).1.outcome = .ok (summary, results, complete) ∧
        List.Forall₂ (fun r o => Outcome.ofReport r = .ok o) (c.reports script w)
          summary.outcomes ∧
        (summary.failures = [] ↔ (∀ r ∈ c.reports script w, r.status = .held) ∧
          c.escaped script w = none ∧ c.notes script w = []) := by
  have hleft : (c.opened w).Accounted (c.left script w) (c.reports script w) (c.notes script w) :=
    accounted_performs (c.deeds script w) hasked
  have hended := c.ended_run script w
  generalize (c.run script w).1.outcome = outcome at hended
  cases hended with
  | @complete results h =>
    obtain ⟨os, hos, hall⟩ := hleft.outcomes
    refine ⟨_, results, true, rfl, ?_, ?_⟩
    · show List.Forall₂ _ _ (c.left script w).outcomes
      rw [hos]
      exact hall
    · show (c.left script w).failures = [] ↔ _
      rw [hleft.failures_eq_nil_iff rfl, h]
      simp
  | @recorded results e ticket found h he hrecord =>
    obtain ⟨os, hos, hall⟩ := (hleft.trans (accounted_record _ e ticket)).outcomes
    refine ⟨_, results, false, rfl, ?_, ?_⟩
    · show List.Forall₂ _ _ (recordError e ticket (c.left script w)).2.outcomes
      rw [hos]
      rw [List.append_nil] at hall
      exact hall
    · have hfailed := failures_ne_nil_of_recorded hleft rfl rfl hrecord
      rw [h]
      exact iff_of_false hfailed (by simp)
  | @refused e ticket fault h he hrecord =>
    obtain ⟨e', ticket', heq, -, hplace⟩ := hescaped _ h
    obtain ⟨rfl, rfl⟩ := Fault.raised.inj heq
    have hrecorded := recorded_recordError e ticket (c.left script w)
    generalize recordError e ticket (c.left script w) = ended at hrecorded hrecord
    cases hrecorded with
    | own => cases hrecord
    | kept => cases hrecord
    | refused hforeign hrefused =>
      rcases hplace with hown | hplace
      · cases hown.symm.trans hforeign
      · obtain ⟨f, hf⟩ := Failure.exists_ofError "" hplace
        cases hf.symm.trans hrefused
  | @passed fault h hfault =>
    obtain ⟨e, ticket, rfl, he, -⟩ := hescaped _ h
    cases he.symm.trans hfault

end CheckRequest

end Conformance
