import Conformance.Proofs.Session.FailFast
import Conformance.Script.Check

/-!
# Conformance.Proofs.Script.FailFast

A check that raises its first failure, beside one that does not.

A script of declarations in an active session is `Session.declareAll` on that
session (`Script.run_declarations`), whatever the check makes of the fault
that leaves the script.  What is left are twins that were opened for the two
checks (`CheckRequest.twins_opened`).
-/

namespace Conformance

/-! ## Scripts -/

namespace Script

variable {st : Statement} {sts : Script} {w : Workspace}

/-- A script stops at the first statement that does not come to a result. -/
theorem run_cons_error {fault : Fault} (h : (st.run w).1.outcome = .error fault) :
    run (st :: sts) w = (⟨.ok ([], some fault), (st.run w).1.effects ++ []⟩, (st.run w).2) := by
  rw [run, Act.hold_bind, Act.emit_bind, h]
  rfl

/-- After a result the other statements are run from where it leaves the workspace. -/
theorem run_cons_ok {r : Result} (h : (st.run w).1.outcome = .ok r) :
    run (st :: sts) w =
      (Run.after (st.run w).1.effects
          ((run sts (st.run w).2).1 >>= fun ended => pure (r :: ended.1, ended.2)),
        (run sts (st.run w).2).2) := by
  have hrest := Act.bind_pure_apply (run sts) (fun ended => (r :: ended.1, ended.2)) (st.run w).2
  rw [run, Act.hold_bind, Act.emit_bind, h]
  exact congrArg (fun ended => (Run.after (st.run w).1.effects ended.1, ended.2)) hrest

end Script

/-! ## Scripts in an active session -/

/-- The workspace in which an active session is open. -/
def Workspace.entered (w : Workspace) (s : Session) : Workspace :=
  { w with frames := ⟨s, true⟩ :: w.frames, opened := w.opened + 1 }

/-- The script that declares one after the other. -/
def Script.declarations (ds : List Declaration) : Script :=
  ds.map (Statement.declare true)

section

variable (w : Workspace) (s : Session)

theorem Workspace.inSession_entered {α : Type} (x : Act Session α) :
    inSession x (w.entered s) = ((x s).1, w.entered (x s).2) := rfl

/-- A session that is entered and left is the one that the computation leaves behind. -/
theorem Workspace.within_of_entered {α : Type} {w : Workspace} {settings : Settings}
    {reporter : Reporter} {seed : Option Int} {x : Act Workspace α} {r : Run α} {s' : Session}
    (h : x (w.entered (Session.start w.opened w.runId settings reporter seed w.freshSeed)) =
      (r, w.entered s')) :
    within settings reporter seed true x w =
      (pure (r, s'), { w with opened := w.opened + 1 }) := by
  unfold entered at h
  simp only [within]
  rw [h]
  rfl

/-- A declaration is declared in the session of the check. -/
theorem Statement.run_declare (d : Declaration) :
    (declare true d).run (w.entered s) =
      ((Session.declare w.library d s).1 >>= fun report => pure (.report report),
        w.entered (Session.declare w.library d s).2) := by
  rw [Statement.run, Act.get_bind, if_pos rfl, Act.bind_pure_apply]
  rfl

/-- A script of declarations is these declarations on the session. -/
theorem Script.run_declarations (ds : List Declaration) :
    ∃ results effects, (declarations ds).run (w.entered s) =
      (⟨.ok (results, (s.declareAll w.library ds).1), effects⟩,
        w.entered (s.declareAll w.library ds).2) := by
  induction ds generalizing s with
  | nil => exact ⟨[], [], rfl⟩
  | cons d ds ih =>
    have hdeclare := Statement.run_declare w s d
    show ∃ results effects, run (.declare true d :: declarations ds) _ = _
    rcases h : (Session.declare w.library d s).1.outcome with fault | report
    · rw [Run.bind_of_error h] at hdeclare
      rw [Session.declareAll_cons_error h, run_cons_error (by rw [hdeclare]), hdeclare]
      exact ⟨_, _, rfl⟩
    · rw [Run.bind_of_ok h] at hdeclare
      obtain ⟨results, effects, hrest⟩ := ih (Session.declare w.library d s).2
      rw [Session.declareAll_cons_ok h, run_cons_ok (by rw [hdeclare]; rfl), hdeclare, hrest]
      exact ⟨_, _, rfl⟩

end

/-! ## Checks -/

namespace CheckRequest

/-- The check with another word on whether failures are raised. -/
def failingFast (c : CheckRequest) (b : Bool) : CheckRequest :=
  { c with settings := { c.settings with checking := { c.settings.checking with failFast := b } } }

/-- The session that is opened for a check. -/
def opened (c : CheckRequest) (w : Workspace) : Session :=
  Session.start w.opened w.runId c.sessionSettings .log c.seed w.freshSeed

variable {c : CheckRequest} {script : Script} {results : List Result} {effects : List Effect}
  {w : Workspace} {s s' : Session}

/-- A check sums up the session that its script leaves behind. -/
theorem run_of_runInside {r : Run (List Result × Bool)}
    (h : runInside c.target script (w.entered (c.opened w)) = (r, w.entered s')) :
    (run c script w).1 = r >>= fun ended => pure (s'.summary, ended.1, ended.2) := by
  have hwithin := Workspace.within_of_entered h
  have hrest := Act.bind_pure_apply (liftM r : Act Workspace (List Result × Bool))
    (fun ended => (s'.summary, ended.1, ended.2)) { w with opened := w.opened + 1 }
  unfold run
  rw [Act.bind_of_ok (by rw [hwithin]; rfl), hwithin]
  exact congrArg Prod.fst hrest

section

variable {target : String} (htarget : isLoadable target)

include htarget

/-- A script that comes to its end is reported as complete. -/
theorem runInside_of_end
    (h : script.run (w.entered s) = (⟨.ok (results, none), effects⟩, w.entered s')) :
    ∃ effects', runInside target script (w.entered s) =
      (⟨.ok (results, true), effects'⟩, w.entered s') := by
  unfold runInside load
  rw [if_pos htarget, Act.bind_of_ok (by rw [h]), h]
  exact ⟨_, rfl⟩

/-- A failure that the session raised itself ends the script and is not recorded again. -/
theorem runInside_of_own {e : Error} {ticket : Option Ticket} (he : e.isVerdict)
    (hown : s'.isOwn ticket)
    (h : script.run (w.entered s) =
      (⟨.ok (results, some (.raised e ticket)), effects⟩, w.entered s')) :
    ∃ effects', runInside target script (w.entered s) =
      (⟨.ok (results, false), effects'⟩, w.entered s') := by
  have hrecord := Workspace.inSession_entered w s' (Session.recordError e ticket)
  rw [Session.recordError_of_own hown] at hrecord
  unfold runInside load
  rw [if_pos htarget, Act.bind_of_ok (by rw [h]), h]
  simp only [Error.isOrdinary_of_isVerdict he, if_true]
  rw [Act.bind_of_ok (by rw [hrecord]; rfl), hrecord]
  exact ⟨_, rfl⟩

/-- A draw that is given up ends the check without a summary. -/
theorem runInside_of_unfinished
    (h : script.run (w.entered s) =
      (⟨.ok (results, some .unfinished), effects⟩, w.entered s')) :
    ∃ effects', runInside target script (w.entered s) =
      (⟨.error .unfinished, effects'⟩, w.entered s') := by
  unfold runInside load
  rw [if_pos htarget, Act.bind_of_ok (by rw [h]), h]
  exact ⟨_, rfl⟩

end

/-! ## Two checks -/

/-- Two checks that differ in whether failures are raised open twins. -/
theorem twins_opened (c : CheckRequest) (w : Workspace) :
    ((c.failingFast false).opened w).Twins ((c.failingFast true).opened w) := by
  obtain ⟨target, settings, seed, trials⟩ := c
  cases trials with
  | none => exact ⟨rfl, rfl, rfl⟩
  | some n => exact ⟨rfl, rfl, rfl⟩

/-- The default budget is that of the request. -/
theorem defaultTrials_opened (c : CheckRequest) (w : Workspace) (b : Bool) :
    ((c.failingFast b).opened w).runner.checking.defaultTrials =
      c.sessionSettings.checking.defaultTrials := by
  obtain ⟨target, settings, seed, trials⟩ := c
  cases trials with
  | none => rfl
  | some n => rfl

variable {ds : List Declaration}

/-- A check that completes has been through its declarations. -/
theorem completes_of_run (htarget : isLoadable c.target)
    (h : (c.run (.declarations ds) w).1.Completes) :
    ((c.opened w).declareAll w.library ds).1 ≠ some .unfinished := by
  intro hfault
  obtain ⟨results, effects, hrun⟩ := Script.run_declarations w (c.opened w) ds
  rw [hfault] at hrun
  obtain ⟨effects', hinside⟩ := runInside_of_unfinished htarget hrun
  refine h ?_
  rw [run_of_runInside hinside]
  rfl

/-- If all declarations are gone through, the check is complete. -/
theorem run_of_end (htarget : isLoadable c.target)
    (h : (c.opened w).declareAll w.library ds = (none, s')) :
    ∃ results, (c.run (.declarations ds) w).1.outcome = .ok (s'.summary, results, true) := by
  obtain ⟨results, effects, hrun⟩ := Script.run_declarations w (c.opened w) ds
  rw [h] at hrun
  obtain ⟨effects', hinside⟩ := runInside_of_end htarget hrun
  rw [run_of_runInside hinside]
  exact ⟨results, rfl⟩

/-- The check that raises its first failure comes to the end of its script
exactly if there is none. -/
theorem run_of_parted (htarget : isLoadable c.target) {t : Session} {fault : Option Fault}
    (h : (c.opened w).declareAll w.library ds = (fault, s'))
    (hparted : t.Parted (c.opened w) s (fault, s')) :
    ∃ results, (c.run (.declarations ds) w).1.outcome =
      .ok (s'.summary, results, s'.summary.ok) := by
  have hfailures : (c.opened w).failures = [] := rfl
  cases hparted with
  | never _ _ _ _ _ hf =>
    have hok : s'.summary.ok = true := List.isEmpty_iff.mpr (hf.trans hfailures)
    rw [hok]
    exact run_of_end htarget h
  | after _ _ _ _ _ _ _ _ hf he hown =>
    have hok : s'.summary.ok = false := by
      show s'.failures.isEmpty = false
      rw [hf, hfailures]
      rfl
    obtain ⟨results, effects, hrun⟩ := Script.run_declarations w (c.opened w) ds
    rw [h] at hrun
    obtain ⟨effects', hinside⟩ := runInside_of_own htarget he hown hrun
    rw [hok, run_of_runInside hinside]
    exact ⟨results, rfl⟩

/-- A check of declarations that raises its first failure produces the
beginning of what it produces if it goes on.

1. If every invariant held, it produces the same, without failures.
2. Otherwise its outcomes end with the first that is not held, and its one
   failure is the first failure of the check that goes on. -/
theorem failFast_prefix (c : CheckRequest) (w : Workspace) (ds : List Declaration)
    (htarget : isLoadable c.target)
    (hds : ∀ d ∈ ds, d.Ordinary w.library c.sessionSettings.checking.defaultTrials)
    (hdraws : ((c.failingFast false).run (.declarations ds) w).1.Completes) :
    ∃ a b : Summary,
      (∃ results, ((c.failingFast false).run (.declarations ds) w).1.outcome =
        .ok (a, results, true)) ∧
      (∃ results, ((c.failingFast true).run (.declarations ds) w).1.outcome =
        .ok (b, results, b.ok)) ∧
      a.outcomes.length = ds.length ∧ a.CutAtFailure b := by
  have hdraws' := completes_of_run (c := c.failingFast false) htarget hdraws
  have htwins := c.twins_opened w
  rw [← c.defaultTrials_opened w false] at hds
  obtain ⟨hnone, ⟨os, hos, hlength⟩, -⟩ := Session.declareAll_of_patient htwins.patient hds hdraws'
  have hparted := htwins.declareAll hds hdraws'
  refine ⟨_, _, run_of_end htarget (Prod.ext hnone rfl), run_of_parted htarget rfl hparted, ?_,
    hparted.cutAtFailure ⟨rfl, rfl⟩ ⟨rfl, rfl⟩⟩
  rw [← hlength]
  exact congrArg List.length hos

/-- A library with a predicate that all tuples satisfy, and one that none does. -/
def alwaysNever : Library :=
  { definitions :=
      #[.host fun _ => pure (.fresh (.bool true)), .host fun _ => pure (.fresh (.bool false))] }

/-- The declaration that all tuples satisfy one of the predicates. -/
def alwaysNeverDeclared (i : Nat) : Declaration :=
  ⟨.descriptor (.boolean none), .function (.defined i none none "<predicate>"), .int 1, ""⟩

theorem alwaysNeverDeclared_ordinary {i : Nat} (hi : i = 0 ∨ i = 1) (defaultTrials : Int) :
    (alwaysNeverDeclared i).Ordinary alwaysNever defaultTrials := by
  refine ⟨_, rfl, ?_, fun values fault h => ?_⟩
  · simp [Descriptor.WellFormed, Descriptor.NameWellFormed]
  · rcases hi with rfl | rfl
    · cases h
    · cases h

theorem failFast_prefix_alwaysNever :
    let c : CheckRequest := { target := "check.py", settings := {} }
    let w : Workspace := { library := alwaysNever, runId := "run", freshSeed := 0 }
    let ds := [alwaysNeverDeclared 0, alwaysNeverDeclared 1, alwaysNeverDeclared 0]
    isLoadable c.target ∧
      (∀ d ∈ ds, d.Ordinary w.library c.sessionSettings.checking.defaultTrials) ∧
      ((c.failingFast false).run (.declarations ds) w).1.Completes ∧
      ∃ a b : Summary, a.CutAtFailure b ∧
        a.outcomes.map (·.status) = [.held, .violated, .held] ∧
        b.outcomes.map (·.status) = [.held, .violated] := by
  intro c w ds
  have htarget : isLoadable c.target := by decide +kernel
  have hds : ∀ d ∈ ds, d.Ordinary w.library c.sessionSettings.checking.defaultTrials := by
    simp only [ds, List.forall_mem_cons]
    exact ⟨alwaysNeverDeclared_ordinary (.inl rfl) _, alwaysNeverDeclared_ordinary (.inr rfl) _,
      alwaysNeverDeclared_ordinary (.inl rfl) _, List.forall_mem_nil _⟩
  have hdraws : ((c.failingFast false).run (.declarations ds) w).1.Completes := by decide +kernel
  have hstatuses : ((c.failingFast false).run (.declarations ds) w).1.outcome.toOption.map
      (fun r => r.1.outcomes.map (·.status)) = some [.held, .violated, .held] := by decide +kernel
  obtain ⟨a, b, ⟨results, ha⟩, -, -, hcut⟩ := failFast_prefix c w ds htarget hds hdraws
  rw [ha] at hstatuses
  have ha' : a.outcomes.map (·.status) = [.held, .violated, .held] := Option.some.inj hstatuses
  have hsecond : a.outcomes.findIdx? (·.status != .held) = some 1 := by
    have hmap := List.findIdx?_map (f := (·.status)) (l := a.outcomes) (p := (· != .held))
    rw [ha'] at hmap
    exact hmap.symm
  refine ⟨htarget, hds, hdraws, a, b, hcut, ha', ?_⟩
  rw [(hcut.first 1 hsecond).1, List.map_take, ha']
  rfl

end CheckRequest

end Conformance
