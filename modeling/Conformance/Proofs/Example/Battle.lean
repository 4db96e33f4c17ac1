import Conformance.Proofs.Example.Matchup
import Conformance.Proofs.Script.Deeds

/-!
# Conformance.Proofs.Example.Battle

The script of the example, for every seed and all settings.

The script has the damage checked and declares its two invariants.  The first
is held, so it takes as many trial seeds as there are trials
(`declare_positiveDeclared`), and the second goes on from there
(`exists_hits`).  What leaves the script is at most the violation of the
second, which the session has raised itself, so the check comes to an account
of both (`exists_outcomes`).

All of that is about checks that complete.  The draws of a seed can be
computed, and so can be told whether its check does (`completes_of_settled`).
-/

namespace Conformance

/-- The runner after so many trial seeds have been taken from its source. -/
def Runner.afterSeeds (r : Runner) (count : Nat) : Runner :=
  { r with source := r.source.afterSeeds count }

namespace Example.Battle

/-! ## The script -/

/-- The predicate that the damage is never negative. -/
def neverNegative : Callable :=
  .defined 1 (some "neverNegative") (some "neverNegative") "neverNegative"

/-- The predicate that there is damage. -/
def alwaysHurts : Callable :=
  .defined 2 (some "alwaysHurts") (some "alwaysHurts") "alwaysHurts"

theorem definition?_neverNegative : checkedLibrary.definition? neverNegative =
    some (.body "neverNegative" none (damageIs .ge)) := rfl

theorem definition?_alwaysHurts : checkedLibrary.definition? alwaysHurts =
    some (.body "alwaysHurts" none (damageIs .gt)) := rfl

/-- The declaration of an invariant of two fighters. -/
def pairDeclared (label : String) (f : Callable) : Declaration :=
  { descriptors := .list [.descriptor fighter, .descriptor fighter]
    predicate := .function f
    name := label }

/-- What the script declares first. -/
def positiveDeclared : Declaration := pairDeclared "damage is never negative" neverNegative

/-- What the script declares last. -/
def landingDeclared : Declaration := pairDeclared "every hit lands" alwaysHurts

/-- The script wraps the damage and then makes its two declarations. -/
theorem script_eq : script =
    .annotate (.descriptor damageSignature) (.function damageFunction) "damage" ::
      Script.declarations [positiveDeclared, landingDeclared] := rfl

/-- A declaration of the script states an invariant of two fighters. -/
theorem invariant_pairDeclared {label : String} (f : Callable) {defaultTrials : Int}
    (hlabel : label ≠ "" ∧ label ≠ Declaration.anonymous) (hpos : 0 < defaultTrials) :
    (pairDeclared label f).invariant checkedLibrary.predicate defaultTrials =
      .ok (invariantOf label f defaultTrials.toNat) := by
  have hname : Declaration.label label f [fighter, fighter] = label := by
    have hempty : label.isEmpty = false := by
      simpa [String.isEmpty_iff] using hlabel.1
    simp [Declaration.label, hempty, hlabel.2]
  have hbudget : Declaration.budget defaultTrials .nothing = .ok defaultTrials.toNat := if_pos hpos
  show (Declaration.budget defaultTrials .nothing >>= fun budget =>
    .ok (Invariant.mk (Declaration.label label f [fighter, fighter]) [fighter, fighter]
      (checkedLibrary.predicate f) budget)) = _
  rw [hbudget, hname]
  rfl

/-- The workspace in which the damage is checked. -/
def withChecked (w : Workspace) : Workspace := { w with library := checkedLibrary }

/-- The annotation puts the checked damage into the library and nothing else. -/
theorem run_annotate {w : Workspace} (hw : w.library = library) :
    ∃ text, (Statement.annotate (.descriptor damageSignature) (.function damageFunction)
        "damage").run w = (⟨.ok (.text text), []⟩, withChecked w) := by
  rw [Statement.run, Act.get_bind, hw]
  exact ⟨_, rfl⟩

/-- The script runs its declarations in the library with the checked damage. -/
theorem run_script {w : Workspace} (hw : w.library = library) (s : Session) :
    ∃ results effects, script.run (w.entered s) =
      (⟨.ok (results, (s.declareAll checkedLibrary [positiveDeclared, landingDeclared]).1), effects⟩,
        (withChecked w).entered
          (s.declareAll checkedLibrary [positiveDeclared, landingDeclared]).2) := by
  obtain ⟨text, htext⟩ := run_annotate (w := w.entered s) hw
  obtain ⟨results, effects, hrest⟩ :=
    Script.run_declarations (withChecked w) s [positiveDeclared, landingDeclared]
  have hrest' : (Script.declarations [positiveDeclared, landingDeclared]).run
    (withChecked (w.entered s)) = _ := hrest
  rw [script_eq, Script.run_cons_ok (by rw [htext]), htext, hrest']
  exact ⟨_, _, rfl⟩

/-- The deeds of the script are those of its declarations. -/
theorem deeds_script {w : Workspace} (hw : w.library = library) (s : Session) :
    script.deeds (w.entered s) =
      (Script.declarations [positiveDeclared, landingDeclared]).deeds
        ((withChecked w).entered s) := by
  obtain ⟨text, htext⟩ := run_annotate (w := w.entered s) hw
  rw [script_eq, Script.deeds_cons_ok _ (by rw [htext]), htext]
  rfl

section

variable {f : Callable} {name label : String} {c : Value.Comparison} {s : Session} {trials : Int}

/-- To make a declaration of the script is to check the invariant it states. -/
theorem declare_pairDeclared {r : Runner} (hlabel : label ≠ "" ∧ label ≠ Declaration.anonymous)
    (hpos : 0 < r.checking.defaultTrials) :
    Runner.declare checkedLibrary (pairDeclared label f) r =
      Runner.check (invariantOf label f r.checking.defaultTrials.toNat) r := by
  exact Runner.declareBy_of_ok (invariant_pairDeclared f hlabel hpos)

/-- Its declarations are ordinary, whatever they compare the damage with. -/
theorem ordinary_pairDeclared (hlabel : label ≠ "" ∧ label ≠ Declaration.anonymous)
    (hpos : 0 < trials)
    (hf : checkedLibrary.definition? f = some (.body name none (damageIs c))) :
    (pairDeclared label f).Ordinary checkedLibrary trials :=
  ⟨_, invariant_pairDeclared f hlabel hpos, ordinary_invariantOf hf⟩

end

/-- The report that an invariant held in all trials. -/
def heldReport (r : Runner) (label : String) : Report :=
  ⟨label, .held, r.checking.defaultTrials, r.checking.defaultTrials, r.seed, none, none⟩

/-- The first invariant is held, and as many trial seeds are taken for it as
there are trials. -/
theorem declare_positiveDeclared {s : Session} (hpos : 0 < s.runner.checking.defaultTrials)
    (hdraws : (Session.declare checkedLibrary positiveDeclared s).1.Completes) :
    let report := heldReport s.runner "damage is never negative"
    let n := s.runner.checking.defaultTrials.toNat
    (Runner.declare checkedLibrary positiveDeclared s.runner).1.outcome = .ok report ∧
      (Session.declare checkedLibrary positiveDeclared s).1.outcome = .ok report ∧
      (Session.declare checkedLibrary positiveDeclared s).2.runner =
        s.runner.afterSeeds n := by
  intro expected n
  have hordinary : positiveDeclared.Ordinary checkedLibrary s.runner.checking.defaultTrials :=
    ordinary_pairDeclared (by decide) hpos definition?_neverNegative
  have hdeclare : Runner.declare checkedLibrary positiveDeclared s.runner =
      Runner.check (invariantOf "damage is never negative" neverNegative n) s.runner :=
    declare_pairDeclared (by decide) hpos
  obtain ⟨report, hreport⟩ := Session.exists_report_of_completes hordinary hdraws
  have hcheck := hreport
  rw [hdeclare] at hcheck
  obtain rfl : report = expected := by
    rw [report_ge_zero definition?_neverNegative hcheck, Int.toNat_of_nonneg (Int.le_of_lt hpos)]
    rfl
  have hsource : (Runner.declare checkedLibrary positiveDeclared s.runner).2 =
      s.runner.afterSeeds n := by
    have hchecked := s.runner.checked_check
      (invariantOf "damage is never negative" neverNegative n)
    rw [hdeclare]
    generalize Runner.check _ s.runner = ended at hchecked hcheck
    cases hchecked with
    | fault h => cases h.symm.trans hcheck
    | @reported _ _ tuples _ ho _ _ hlength =>
      obtain rfl := Except.ok.inj (ho.symm.trans hcheck)
      have htuples : n = tuples.length := by
        have hrun : s.runner.checking.defaultTrials = tuples.length := hlength
        omega
      rw [htuples]
      rfl
  have hdeclared :=
    Session.declared_declare checkedLibrary positiveDeclared s hordinary.tellable
  generalize Session.declare checkedLibrary positiveDeclared s = ended at hdeclared hdraws
  refine ⟨hreport, ?_⟩
  cases hdeclared with
  | fault h => cases h.symm.trans hreport
  | held h =>
    obtain rfl := Except.ok.inj (h.symm.trans hreport)
    exact ⟨rfl, hsource⟩
  | kept h ho hstatus =>
    obtain rfl := Except.ok.inj (h.symm.trans hreport)
    exact absurd (Outcome.status_of_ofReport ho) hstatus
  | raised h ho hstatus =>
    obtain rfl := Except.ok.inj (h.symm.trans hreport)
    exact absurd (Outcome.status_of_ofReport ho) hstatus

/-- Both declarations are reported on, one after the other. -/
theorem exists_hits {s : Session} (hpos : 0 < s.runner.checking.defaultTrials)
    (hall : (s.declareAll checkedLibrary [positiveDeclared, landingDeclared]).1 ≠ some .unfinished) :
    let s' := (Session.declare checkedLibrary positiveDeclared s).2
    let r' := s.runner.afterSeeds s.runner.checking.defaultTrials.toNat
    s'.runner = r' ∧ ∃ hits,
      (Runner.declare checkedLibrary positiveDeclared s.runner).1.outcome =
        .ok (heldReport s.runner "damage is never negative") ∧
      (Session.declare checkedLibrary positiveDeclared s).1.outcome =
        .ok (heldReport s.runner "damage is never negative") ∧
      (Runner.declare checkedLibrary landingDeclared s'.runner).1.outcome = .ok hits := by
  intro s' r'
  obtain ⟨hfirst, hheld, hrunner⟩ :=
    declare_positiveDeclared hpos (Session.completes_of_declareAll hall)
  rw [Session.declareAll_cons_ok hheld] at hall
  have hordinary : landingDeclared.Ordinary checkedLibrary s'.runner.checking.defaultTrials := by
    rw [show s'.runner = r' from hrunner]
    exact ordinary_pairDeclared (by decide) hpos definition?_alwaysHurts
  obtain ⟨hits, hhits⟩ :=
    Session.exists_report_of_completes hordinary (Session.completes_of_declareAll hall)
  exact ⟨hrunner, hits, hfirst, hheld, hhits⟩

section

variable {c : CheckRequest} {w : Workspace} (hw : w.library = library)
variable (htarget : CheckRequest.isLoadable c.target)

include hw htarget

/-- What escapes from a check of the script escapes from its declarations. -/
theorem escaped_of_check : c.escaped script w =
    ((c.opened w).declareAll checkedLibrary [positiveDeclared, landingDeclared]).1 := by
  obtain ⟨results, effects, hrun⟩ := run_script hw (c.opened w)
  unfold CheckRequest.escaped CheckRequest.load
  rw [if_pos htarget, hrun]

/-- What the script does to the session of a check. -/
theorem deeds_of_check {report : Report}
    (h : (Session.declare checkedLibrary positiveDeclared (c.opened w)).1.outcome = .ok report) :
    c.deeds script w = [.operate (.declare checkedLibrary positiveDeclared),
      .operate (.declare checkedLibrary landingDeclared)] := by
  rw [CheckRequest.deeds, if_pos htarget, deeds_script hw]
  refine (Script.deeds_declarations_ok (w := withChecked w) h _).trans (congrArg _ ?_)
  rcases hlast : (Session.declare checkedLibrary landingDeclared
    (Session.declare checkedLibrary positiveDeclared (c.opened w)).2).1.outcome with fault | last
  · exact Script.deeds_declarations_error (w := withChecked w) hlast []
  · exact Script.deeds_declarations_ok (w := withChecked w) hlast []

/-- A check whose declarations are reported on comes to an account of them.
What may leave the script is the report of a violation that the session has
raised itself. -/
theorem exists_outcomes {report hits : Report}
    (hpos : 0 < c.sessionSettings.checking.defaultTrials)
    (hrunner : (Session.declare checkedLibrary positiveDeclared (c.opened w)).2.runner =
      (c.opened w).runner.afterSeeds c.sessionSettings.checking.defaultTrials.toNat)
    (hheld : (Session.declare checkedLibrary positiveDeclared (c.opened w)).1.outcome = .ok report)
    (hlast : (Runner.declare checkedLibrary landingDeclared
      (Session.declare checkedLibrary positiveDeclared (c.opened w)).2.runner).1.outcome = .ok hits) :
    ∃ summary results complete, (c.run script w).1.outcome = .ok (summary, results, complete) ∧
      List.Forall₂ (fun report o => Outcome.ofReport report = .ok o) (c.reports script w)
        summary.outcomes := by
  have hdeeds := deeds_of_check hw htarget hheld
  have hlanding : (Session.Operation.declare checkedLibrary landingDeclared).Tellable
      c.sessionSettings.checking.defaultTrials :=
    (ordinary_pairDeclared (by decide) hpos definition?_alwaysHurts).tellable
  have hasked : ∀ deed ∈ c.deeds script w,
      deed.Tellable c.sessionSettings.checking.defaultTrials := by
    rw [hdeeds, List.forall_mem_cons, List.forall_mem_singleton]
    exact ⟨(ordinary_pairDeclared (by decide) hpos definition?_neverNegative).tellable, hlanding⟩
  have hleft : c.left script w = (Session.declare checkedLibrary landingDeclared
      (Session.declare checkedLibrary positiveDeclared (c.opened w)).2).2 := by
    rw [CheckRequest.left, hdeeds]
    rfl
  have hescaped : ∀ fault, c.escaped script w = some fault → ∃ e ticket,
      fault = .raised e ticket ∧ e.isOrdinary ∧ (c.left script w).isOwn ticket := by
    intro fault hfault
    rw [escaped_of_check hw htarget, Session.declareAll_cons_ok hheld] at hfault
    rw [hleft]
    rcases h : (Session.declare checkedLibrary landingDeclared
      (Session.declare checkedLibrary positiveDeclared (c.opened w)).2).1.outcome with raised | last
    · rw [Session.declareAll_cons_error h] at hfault
      obtain rfl := Option.some.inj hfault
      exact Session.own_of_declare_error (by rw [hrunner]; exact hlanding) hlast h
    · rw [Session.declareAll_cons_ok h] at hfault
      cases hfault
  obtain ⟨summary, results, complete, hrun, houtcomes, -⟩ :=
    CheckRequest.exists_summary hasked fun fault h =>
      let ⟨e, ticket, heq, he, hown⟩ := hescaped fault h
      ⟨e, ticket, heq, he, .inl hown⟩
  exact ⟨summary, results, complete, hrun, houtcomes⟩

end

/-- On a matchup that is drawn, the damage is returned and is in its range. -/
theorem damage_of_replay {s : Sampling} {seed : Int} {values : List Value}
    (h : s.replay [fighter, fighter] seed = .ok values) :
    ∃ v w, values = [v, w] ∧ ∀ o o', ∃ t,
      (checkedLibrary.call "damage" (.tuple [.whole v o, .whole w o'])).outcome = .ok t ∧
        (Descriptor.ofInteger .uint16).validate t.value = none := by
  obtain ⟨v, w, rfl, hv, hw⟩ := exists_fighters_of_replay h
  obtain ⟨a, ha⟩ := exists_describes (admits_of_canonical hv)
  obtain ⟨d, hd⟩ := exists_describes (admits_of_canonical hw)
  refine ⟨v, w, rfl, fun o o' => ?_⟩
  obtain ⟨t, ht, hvalue⟩ :=
    exists_damage (admits_of_canonical hv) (admits_of_canonical hw) ha hd o o' 998
  refine ⟨t, ht, ?_⟩
  rw [hvalue]
  exact validate_hit a d

/-! ## The check of a seed -/

/-- An invariant of two fighters is reported on if its trials can be settled. -/
theorem exists_report_of_settled {r : Runner} {f : Callable} {name label : String}
    {c : Value.Comparison} (hlabel : label ≠ "" ∧ label ≠ Declaration.anonymous)
    (hpos : 0 < r.checking.defaultTrials)
    (hf : checkedLibrary.definition? f = some (.body name none (damageIs c)))
    (h : ∀ j < r.checking.defaultTrials.toNat,
      r.Settled (invariantOf label f r.checking.defaultTrials.toNat) (r.source.trialSeed j)) :
    ∃ report, (Runner.declare checkedLibrary (pairDeclared label f) r).1.outcome = .ok report := by
  rw [declare_pairDeclared hlabel hpos]
  exact Runner.exists_report_of_settled (ordinary_invariantOf hf) h

/-- A check of the script completes if the trials of both invariants can be
settled, those of the second with the seeds behind those of the first. -/
theorem completes_of_settled {c : CheckRequest} {w : Workspace} (hw : w.library = library)
    (htarget : CheckRequest.isLoadable c.target)
    (hpos : 0 < c.sessionSettings.checking.defaultTrials) {n : Nat}
    (hn : c.sessionSettings.checking.defaultTrials.toNat = n)
    (hpositive : ∀ j < n, (c.opened w).runner.Settled
      (invariantOf "damage is never negative" neverNegative n)
      ((c.opened w).runner.source.trialSeed j))
    (hlanding : ∀ j < n, (c.opened w).runner.Settled
      (invariantOf "every hit lands" alwaysHurts n)
      ((c.opened w).runner.source.trialSeed (n + j))) :
    (c.run script w).1.Completes := by
  subst hn
  have hordinary : positiveDeclared.Ordinary checkedLibrary
      (c.opened w).runner.checking.defaultTrials :=
    ordinary_pairDeclared (by decide) hpos definition?_neverNegative
  obtain ⟨report, hreport⟩ : ∃ report,
      (Runner.declare checkedLibrary positiveDeclared (c.opened w).runner).1.outcome =
        .ok report :=
    exists_report_of_settled (by decide) hpos definition?_neverNegative hpositive
  obtain ⟨-, hheld, hrunner⟩ := declare_positiveDeclared hpos
    (Session.completes_of_report hordinary.tellable hreport)
  obtain ⟨hits, hlast⟩ : ∃ hits, (Runner.declare checkedLibrary landingDeclared
      (Session.declare checkedLibrary positiveDeclared (c.opened w)).2.runner).1.outcome =
        .ok hits := by
    rw [hrunner]
    refine exists_report_of_settled (by decide) hpos definition?_alwaysHurts fun j hj => ?_
    rw [Runner.afterSeeds, Twister.trialSeed_afterSeeds]
    exact (hlanding j hj).of_source _
  obtain ⟨summary, results, complete, hrun, -⟩ :=
    exists_outcomes hw htarget hpos hrunner hheld hlast
  intro h
  cases hrun.symm.trans h

/-- The two trial seeds that are first taken from the seed 3. -/
theorem trialSeed_three : (Twister.ofSeed 3).trialSeed 0 = 10932295209482665981 ∧
    (Twister.ofSeed 3).trialSeed 1 = 2405875930906139466 := by
  have hseeds : Twister.Packed.forced (Twister.Packed.ofSeed 3) (fun n =>
      let first := Twister.bits 64 ⟨Twister.unpack n, 0⟩
      first.1 == 10932295209482665981 && (Twister.bits 64 first.2).1 == 2405875930906139466) =
        true := by
    decide +kernel
  rw [Twister.Packed.forced_eq, ← Twister.bits_ofSeed (by decide), Bool.and_eq_true_iff,
    beq_iff_eq, beq_iff_eq] at hseeds
  rw [Twister.trialSeed_succ, Twister.trialSeed_zero, Twister.trialSeed_zero]
  exact hseeds

/-! ## The reports -/

/-- The example is right for every seed and all settings: a check of its script
whose draws complete comes to an account of two reports.

1. The first invariant is held in all trials.  On whatever matchup is drawn,
   the damage is returned and is in the range of its type.
2. The second is violated exactly if one of its trials draws a blocked hit,
   and is held in all trials if none does.
3. The counterexample is a blocked hit of one of its trials and has no cause.
   To blame is the attack of the attacker, the armor of the defender, or
   nothing. -/
theorem script_reports (c : CheckRequest) (w : Workspace) (hw : w.library = library)
    (htarget : CheckRequest.isLoadable c.target)
    (hpos : 0 < c.sessionSettings.checking.defaultTrials)
    (hdraws : (c.run script w).1.Completes) :
    let r := (c.opened w).runner
    let trials := c.sessionSettings.checking.defaultTrials
    let lib := (script.run (w.entered (c.opened w))).2.library
    let blockedAt (j : Nat) (v w : Value) :=
      r.sampling.replay [fighter, fighter] (r.source.trialSeed (trials.toNat + j)) = .ok [v, w] ∧
        Blocked v w
    ∃ hits summary results complete,
      (c.run script w).1.outcome = .ok (summary, results, complete) ∧
      List.Forall₂ (fun report o => Outcome.ofReport report = .ok o) (c.reports script w)
        summary.outcomes ∧
      c.reports script w =
        [⟨"damage is never negative", .held, trials, trials, r.seed, none, none⟩, hits] ∧
      (∀ seed values, r.sampling.replay [fighter, fighter] seed = .ok values →
        ∃ v w, values = [v, w] ∧ ∀ o o', ∃ t,
          (lib.call "damage" (.tuple [.whole v o, .whole w o'])).outcome = .ok t ∧
            (Descriptor.ofInteger .uint16).validate t.value = none) ∧
      (hits.status = .violated ↔ ∃ j < trials.toNat, ∃ v w, blockedAt j v w) ∧
      (hits.status ≠ .violated →
        hits = ⟨"every hit lands", .held, trials, trials, r.seed, none, none⟩) ∧
      (hits.status = .violated → ∃ x, hits.counterexample = some x ∧ x.cause = none ∧
        (∃ k < trials.toNat, ∃ v w,
          x.trial = (k + 1 : Nat) ∧ x.values = [v, w] ∧ blockedAt k v w) ∧
        (x.argument = none ∧ x.path = [] ∨ x.argument = some 0 ∧ x.path = atkPath ∨
          x.argument = some 1 ∧ x.path = armorPath)) := by
  intro r trials lib blockedAt
  have hlib : lib = checkedLibrary := by
    obtain ⟨results, effects, hrun⟩ := run_script hw (c.opened w)
    simp only [lib, hrun]
    rfl
  have htrials : (trials.toNat : Int) = trials := Int.toNat_of_nonneg (Int.le_of_lt hpos)
  have hall := CheckRequest.escaped_ne_unfinished hdraws
  rw [escaped_of_check hw htarget] at hall
  obtain ⟨hrunner, hits, hfirst, hheld, hlast⟩ := exists_hits hpos hall
  have hcheck : (Runner.check (invariantOf "every hit lands" alwaysHurts trials.toNat)
      (r.afterSeeds trials.toNat)).1.outcome = .ok hits := by
    rw [hrunner, landingDeclared, declare_pairDeclared (by decide) hpos] at hlast
    exact hlast
  have hreports : c.reports script w =
      [⟨"damage is never negative", .held, trials, trials, r.seed, none, none⟩, hits] := by
    rw [CheckRequest.reports, deeds_of_check hw htarget hheld]
    show (Session.Deed.report? (c.opened w) _).toList ++ ((Session.Deed.report?
      (Session.declare checkedLibrary positiveDeclared (c.opened w)).2 _).toList ++ []) = _
    rw [Session.Deed.report?_of_ok hfirst, Session.Deed.report?_of_ok hlast]
    rfl
  obtain ⟨summary, results, complete, hrun, houtcomes⟩ :=
    exists_outcomes hw htarget hpos hrunner hheld hlast
  obtain ⟨hviolated, hstatus, hblocked⟩ := report_gt_zero definition?_alwaysHurts hcheck
  -- the trials of the second invariant take the seeds behind those of the first
  simp only [Runner.afterSeeds, Twister.trialSeed_afterSeeds] at hviolated hblocked
  refine ⟨hits, summary, results, complete, hrun, houtcomes, hreports, ?_, hviolated, ?_, ?_⟩
  · rw [hlib]
    exact fun seed values h => damage_of_replay h
  · intro hne
    rw [hstatus hne, htrials]
    rfl
  · intro h
    obtain ⟨x, hx, hdrawn⟩ := hblocked h
    obtain ⟨hcause, hplace⟩ := place_of_counterexample definition?_alwaysHurts hcheck hx
    exact ⟨x, hx, hcause, hdrawn, hplace⟩

/-- From the seed 3 the first matchup of the second invariant is a blocked hit,
and the first attack that is drawn in its place is not blocked. -/
theorem script_reports_three :
    let c : CheckRequest :=
      { target := "battle.py", settings := {}, seed := some 3, trials := some 1 }
    let w : Workspace := { library, runId := "run", freshSeed := 0 }
    w.library = library ∧ CheckRequest.isLoadable c.target ∧
      0 < c.sessionSettings.checking.defaultTrials ∧ (c.run script w).1.Completes ∧
      ∃ hits x, c.reports script w =
          [⟨"damage is never negative", .held, 1, 1, 3, none, none⟩, hits] ∧
        hits.status = .violated ∧ hits.counterexample = some x ∧ x.cause = none ∧
        (∃ v w, x.values = [v, w] ∧ Blocked v w) ∧
        (x.argument = none ∧ x.path = [] ∨ x.argument = some 0 ∧ x.path = atkPath ∨
          x.argument = some 1 ∧ x.path = armorPath) := by
  intro c w
  have htarget : CheckRequest.isLoadable c.target := by decide +kernel
  have hpos : 0 < c.sessionSettings.checking.defaultTrials := by decide
  have hrunner : (c.opened w).runner = Runner.ofSeed c.sessionSettings.checking {} 3 := rfl
  have hclear : matchupYields {} (fun _ _ => true) 10932295209482665981 = true := by
    decide +kernel
  have hblocked : matchupYields {} (fun v w =>
      isBlocked v w && !isBlocked (v.put atkPath (.int 249)) w) 2405875930906139466 = true := by
    decide +kernel
  have hredraw : redrawYields {} 249 2405875930906139466 = true := by decide +kernel
  obtain ⟨v, w', hfirst, -⟩ := exists_of_matchupYields hclear
  obtain ⟨a, d, hsecond, hblocked⟩ := exists_of_matchupYields hblocked
  obtain ⟨hblocked, hredrawn⟩ := Bool.and_eq_true_iff.mp hblocked
  have hdraws : (c.run script w).1.Completes := by
    refine completes_of_settled (n := 1) rfl htarget hpos rfl (fun j hj => ?_) fun j hj => ?_
    · obtain rfl : j = 0 := Nat.lt_one_iff.mp hj
      rw [hrunner, Runner.ofSeed, trialSeed_three.1]
      exact settled_ge_zero definition?_neverNegative hfirst
    · obtain rfl : j = 0 := Nat.lt_one_iff.mp hj
      show (c.opened w).runner.Settled _ ((c.opened w).runner.source.trialSeed 1)
      rw [hrunner, Runner.ofSeed, trialSeed_three.2]
      exact settled_gt_zero definition?_alwaysHurts (by decide) hsecond hredraw
        ((Bool.not_eq_true' _).mp hredrawn)
  obtain ⟨hits, -, -, -, -, -, hreports, -, hviolated, -, hx⟩ :=
    script_reports c w rfl htarget hpos hdraws
  have hstatus : hits.status = .violated := by
    obtain ⟨a', d', heq, ha, hd⟩ := exists_fighters_of_replay hsecond
    obtain ⟨rfl, rfl⟩ : a = a' ∧ d = d' := by simpa using heq
    refine hviolated.mpr ⟨0, Nat.succ_pos 0, a, d, ?_, ?_⟩
    · show (c.opened w).runner.sampling.replay [fighter, fighter]
        ((c.opened w).runner.source.trialSeed 1) = .ok [a, d]
      rw [hrunner, Runner.ofSeed, trialSeed_three.2]
      exact hsecond
    · exact (isBlocked_iff (admits_of_canonical ha) (admits_of_canonical hd)).mp hblocked
  obtain ⟨x, hx, hcause, ⟨-, -, v, w, -, hvalues, -, hblocked⟩, hplace⟩ := hx hstatus
  exact ⟨rfl, htarget, hpos, hdraws, hits, x, hreports, hstatus, hx, hcause,
    ⟨v, w, hvalues, hblocked⟩, hplace⟩

end Example.Battle

end Conformance
