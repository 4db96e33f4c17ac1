import Conformance.Proofs.Act
import Conformance.Proofs.Invariant.Trials

/-!
# Conformance.Proofs.Invariant.Verdict

What a report has to say on an invariant.

`Runner.Verdict` settles it from the tuples that the next trial seeds stand
for: aborted if a function stands among the descriptors, held if the
predicate holds of as many tuples as the budget allows, violated at the first
tuple of which it does not.  Only the part to blame is left open
(`Verdict.unique`).

A check that ends without a fault reports the verdict, has called the
predicate on the tuples of its trials in their order before anything else,
and has taken one seed for each (`checked_check`).
-/

namespace Conformance

namespace Runner

variable {r : Runner} {i : Invariant}

/-! ## Obstacles -/

/-- Nothing keeps descriptors from being drawn exactly if no function stands in them. -/
theorem obstacle?_eq_none_iff {ds : List Descriptor} :
    obstacle? ds = none ↔ ∀ d ∈ ds, ¬ d.HasFunction := by
  unfold obstacle?
  rw [List.findSome?_eq_none_iff]
  refine forall₂_congr fun d _ => ?_
  constructor
  · intro h hfunction
    obtain ⟨message, path, hrefused⟩ := Descriptor.exists_unsupported_of_hasFunction hfunction
    rw [hrefused] at h
    cases h
  · intro h
    rw [Descriptor.ensureGenerable_of_not_hasFunction h []]

/-- There is an error for a function among descriptors. -/
theorem exists_obstacle {ds : List Descriptor} (h : ∃ d ∈ ds, d.HasFunction) :
    ∃ e, obstacle? ds = some e := by
  obtain ⟨d, hd, hfunction⟩ := h
  rw [← Option.ne_none_iff_exists']
  exact fun hnone => obstacle?_eq_none_iff.mp hnone d hd hfunction

/-! ## Verdicts -/

/-- The tuple of the `j`-th trial from where the runner stands, counted from 0. -/
def tuple (r : Runner) (i : Invariant) (j : Nat) : Except Fault (List Value) :=
  r.sampling.replay i.descriptors (r.source.trialSeed j)

/-- The tuples of the first trials, in their order. -/
def Drawn (r : Runner) (i : Invariant) (tuples : List (List Value)) : Prop :=
  ∀ j values, tuples[j]? = some values → r.tuple i j = .ok values

/-- The predicate holds of the tuple of the `j`-th trial. -/
def HoldsAt (r : Runner) (i : Invariant) (j : Nat) : Prop :=
  ∃ values, r.tuple i j = .ok values ∧ i.predicate.holds values = true

/-- What a report has to say on an invariant. -/
inductive Verdict (r : Runner) (i : Invariant) : Report → Prop
  | aborted {e} (hf : ∃ d ∈ i.descriptors, d.HasFunction)
    (he : obstacle? i.descriptors = some e) :
    Verdict r i ⟨i.label, .aborted, i.budget, 0, r.seed, none, some e⟩
  | held (hf : ∀ d ∈ i.descriptors, ¬ d.HasFunction) (hall : ∀ j < i.budget, r.HoldsAt i j) :
    Verdict r i ⟨i.label, .held, i.budget, i.budget, r.seed, none, none⟩
  | violated {k values cause} (blame : Option Blame)
    (hf : ∀ d ∈ i.descriptors, ¬ d.HasFunction) (hk : k < i.budget)
    (hbefore : ∀ j < k, r.HoldsAt i j) (hvalues : r.tuple i k = .ok values)
    (hcause : i.predicate.Falsified values cause) :
    Verdict r i ⟨i.label, .violated, i.budget, (k + 1 : Nat), r.seed,
      some (counterExample i values (k + 1) (r.source.trialSeed k) cause blame), none⟩

/-- The predicate holds at each trial that passed. -/
theorem Passed.holdsAt {tuples : List (List Value)} (h : r.Passed i r.source tuples) :
    ∀ j < tuples.length, r.HoldsAt i j := by
  intro j hj
  have hget : tuples[j]? = some tuples[j] := List.getElem?_eq_getElem hj
  exact ⟨tuples[j], h j tuples[j] hget⟩

/-- The tuples that passed were drawn. -/
theorem Passed.drawn {tuples : List (List Value)} (h : r.Passed i r.source tuples) :
    r.Drawn i tuples :=
  fun j values hj => (h j values hj).1

theorem drawn_nil : r.Drawn i [] := by
  intro j values hj
  simp at hj

/-- The tuple of the next trial goes behind those that were drawn. -/
theorem Drawn.concat {tuples : List (List Value)} {values : List Value} (h : r.Drawn i tuples)
    (hvalues : r.tuple i tuples.length = .ok values) : r.Drawn i (tuples ++ [values]) := by
  intro j other hj
  rcases Nat.lt_trichotomy j tuples.length with hlt | heq | hgt
  · rw [List.getElem?_append_left hlt] at hj
    exact h j other hj
  · subst heq
    rw [List.getElem?_concat_length] at hj
    cases hj
    exact hvalues
  · have hlength : (tuples ++ [values]).length ≤ j := by
      rw [List.length_append, List.length_singleton]
      exact hgt
    rw [List.getElem?_eq_none hlength] at hj
    cases hj

/-- The part to blame left out. -/
def withoutBlame (report : Report) : Report :=
  { report with counterexample :=
      report.counterexample.map fun c => { c with argument := none, path := [] } }

/-- What the predicate holds of does not falsify it. -/
theorem HoldsAt.not_falsified {j : Nat} {values : List Value} {cause : Option Error}
    (h : r.HoldsAt i j) (hvalues : r.tuple i j = .ok values) :
    ¬ i.predicate.Falsified values cause := by
  obtain ⟨other, hother, hholds⟩ := h
  obtain rfl : other = values := Except.ok.inj (hother.symm.trans hvalues)
  intro hcause
  rw [hcause.not_holds] at hholds
  cases hholds

/-- There is one verdict, but for the part to blame. -/
theorem Verdict.unique {a b : Report} (ha : r.Verdict i a) (hb : r.Verdict i b) :
    withoutBlame a = withoutBlame b := by
  have hclash : (∃ d ∈ i.descriptors, d.HasFunction) →
      ¬ ∀ d ∈ i.descriptors, ¬ d.HasFunction :=
    fun ⟨d, hd, hfunction⟩ hf => hf d hd hfunction
  cases ha with
  | aborted hf he =>
    cases hb with
    | aborted _ he' =>
      obtain rfl := Option.some.inj (he.symm.trans he')
      rfl
    | held hf' => exact absurd hf' (hclash hf)
    | violated _ hf' => exact absurd hf' (hclash hf)
  | held hf hall =>
    cases hb with
    | aborted hf' => exact absurd hf (hclash hf')
    | held => rfl
    | violated _ _ hk _ hvalues hcause => exact absurd hcause ((hall _ hk).not_falsified hvalues)
  | @violated k values cause blame hf hk hbefore hvalues hcause =>
    cases hb with
    | aborted hf' => exact absurd hf (hclash hf')
    | held _ hall => exact absurd hcause ((hall k hk).not_falsified hvalues)
    | @violated k' values' cause' blame' _ hk' hbefore' hvalues' hcause' =>
      -- neither index can be the smaller one, for the predicate holds below both
      obtain rfl : k = k' := by
        rcases Nat.lt_trichotomy k k' with hlt | heq | hgt
        · exact absurd hcause ((hbefore' k hlt).not_falsified hvalues)
        · exact heq
        · exact absurd hcause' ((hbefore k' hgt).not_falsified hvalues')
      obtain rfl : values = values' := Except.ok.inj (hvalues.symm.trans hvalues')
      obtain rfl := hcause.unique hcause'
      rfl

/-! ## Checks -/

/-- Without a counterexample the invariant is reported as held. -/
theorem report_none (r : Runner) (i : Invariant) : ∃ event, r.report i none =
    ⟨.ok ⟨i.label, .held, i.budget, i.budget, r.seed, none, none⟩, [.logged event]⟩ :=
  ⟨_, rfl⟩

/-- With a counterexample it is reported as violated, at the trial of that. -/
theorem report_some (r : Runner) (i : Invariant) {c : CounterExample Error} {place : String}
    (h : c.location = .ok place) : ∃ event, r.report i (some c) =
      ⟨.ok ⟨i.label, .violated, i.budget, c.trial, r.seed, some c, none⟩, [.logged event]⟩ := by
  unfold report
  simp only [h]
  exact ⟨_, rfl⟩

/-- If its place cannot be told, there is no report. -/
theorem report_error (r : Runner) (i : Invariant) {c : CounterExample Error} {e : Error}
    (h : c.location = .error e) : (r.report i (some c)).outcome = .error (.of e) := by
  unfold report
  simp only [h]
  rfl

/-- A report with a counterexample is the one that violation gives. -/
theorem eq_some_of_report {found : Option (CounterExample Error)} {report : Report}
    {c : CounterExample Error} (h : (r.report i found).outcome = .ok report)
    (hc : report.counterexample = some c) :
    found = some c ∧ (∃ place, c.location = .ok place) ∧
      report = ⟨i.label, .violated, i.budget, c.trial, r.seed, some c, none⟩ := by
  cases found with
  | none =>
    obtain ⟨event, hevent⟩ := r.report_none i
    rw [hevent] at h
    cases h
    cases hc
  | some found =>
    rcases hplace : found.location with e | place
    · rw [r.report_error i hplace] at h
      cases h
    · obtain ⟨event, hevent⟩ := r.report_some i hplace
      rw [hevent] at h
      cases h
      cases hc
      exact ⟨rfl, ⟨place, hplace⟩, rfl⟩

/-- A check that cannot draw is aborted, with a warning and no trial. -/
theorem check_of_obstacle {e : Error} (h : obstacle? i.descriptors = some e) (r : Runner) :
    check i r =
      (⟨.ok ⟨i.label, .aborted, i.budget, 0, r.seed, none, some e⟩,
        [.logged ⟨.warning, "invariant_aborted",
          [("system", .str "conformos.engine.invariants"), ("seed", .int r.seed),
            ("invariant", .str i.label), ("error", .str e.text)]⟩]⟩, r) := by
  unfold check
  rw [h]
  rfl

/-- Any other check runs its trials and reports on them. -/
theorem check_of_generable (h : obstacle? i.descriptors = none) (r : Runner) :
    check i r = ((r.trials i i.budget 1 r.source).1 >>= r.report i,
      { r with source := (r.trials i i.budget 1 r.source).2 }) := by
  unfold check
  rw [h]

/-- A check takes numbers from the source and changes nothing else. -/
theorem check_snd (r : Runner) (i : Invariant) : ∃ source, (check i r).2 = { r with source } := by
  rcases hobstacle : obstacle? i.descriptors with _ | e
  · rw [check_of_generable hobstacle]
    exact ⟨_, rfl⟩
  · rw [check_of_obstacle hobstacle]
    exact ⟨r.source, rfl⟩

/-- A declaration is refused, or what it states is checked. -/
theorem declareBy_eq (predicate : Callable → Predicate) (d : Declaration) (r : Runner) :
    declareBy predicate d r =
      match d.invariant predicate r.checking.defaultTrials with
      | .ok i => check i r
      | .error e => (Run.raise e, r) := by
  unfold declareBy
  rw [Act.get_bind]
  rcases d.invariant predicate r.checking.defaultTrials with e | i
  · rfl
  · rfl

/-- What a declaration states is checked. -/
theorem declareBy_of_ok {predicate : Callable → Predicate} {d : Declaration}
    (h : d.invariant predicate r.checking.defaultTrials = .ok i) :
    declareBy predicate d r = check i r := by
  rw [declareBy_eq, h]

/-- A declaration takes numbers from the source and changes nothing else. -/
theorem declareBy_snd (r : Runner) (predicate : Callable → Predicate) (d : Declaration) :
    ∃ source, (declareBy predicate d r).2 = { r with source } := by
  rw [declareBy_eq]
  split
  · next i _ => exact r.check_snd i
  · exact ⟨r.source, rfl⟩

/-- What is reported on a declaration is reported by the check of what it states. -/
theorem exists_check_of_declareBy {predicate : Callable → Predicate} {d : Declaration}
    {report : Report} (h : (declareBy predicate d r).1.outcome = .ok report) :
    ∃ i, d.invariant predicate r.checking.defaultTrials = .ok i ∧
      (check i r).1.outcome = .ok report := by
  rw [declareBy_eq] at h
  split at h
  · next i hi => exact ⟨i, hi, h⟩
  · cases h

/-- Where the counterexample of a report comes from. -/
theorem exists_blame_of_check {report : Report} {c : CounterExample Error}
    (h : (check i r).1.outcome = .ok report) (hc : report.counterexample = some c) :
    (∀ d ∈ i.descriptors, ¬ d.HasFunction) ∧
      ∃ values index seed cause blame, c = counterExample i values index seed cause blame ∧
        r.sampling.replay i.descriptors seed = .ok values ∧
        i.predicate.Falsified values cause ∧ (r.blame i values seed cause).outcome = .ok blame := by
  rcases hobstacle : obstacle? i.descriptors with _ | e
  · refine ⟨obstacle?_eq_none_iff.mp hobstacle, ?_⟩
    rw [check_of_generable hobstacle] at h
    obtain ⟨found, hfound, h⟩ := Run.outcome_bind_ok.mp h
    obtain ⟨rfl, -, -⟩ := eq_some_of_report h hc
    have hended := r.ended_trials i i.budget 1 r.source
    generalize r.trials i i.budget 1 r.source = ended at hended hfound
    cases hended with
    | fault hfault => cases hfault.symm.trans hfound
    | held => cases hfound
    | falsified hlength hpassed hvalues hcause hblame =>
      obtain rfl := Option.some.inj (Except.ok.inj hfound)
      exact ⟨_, _, _, _, _, rfl, hvalues, hcause, hblame⟩
  · rw [check_of_obstacle hobstacle] at h
    cases h
    cases hc

/-- How a check ends, and the runner that it leaves behind. -/
inductive Checked (r : Runner) (i : Invariant) : Run Report × Runner → Prop
  | fault {told r' fault} (h : told.outcome = .error fault) : Checked r i (told, r')
  | reported {told report tuples more} (ho : told.outcome = .ok report)
    (heffects : told.effects = i.predicate.calls tuples ++ more) (hverdict : r.Verdict i report)
    (hlength : report.trialsRun = (tuples.length : Nat)) (hdrawn : r.Drawn i tuples) :
    Checked r i (told, { r with source := r.source.afterSeeds tuples.length })

/-- Every check ends in one of these ways. -/
theorem checked_check (r : Runner) (i : Invariant) : r.Checked i (check i r) := by
  rcases hobstacle : obstacle? i.descriptors with _ | e
  · have hf := obstacle?_eq_none_iff.mp hobstacle
    rw [check_of_generable hobstacle]
    have hended := r.ended_trials i i.budget 1 r.source
    generalize r.trials i i.budget 1 r.source = ended at hended
    cases hended with
    | fault h => exact .fault (by rw [Run.bind_of_error h])
    | @held tuples hlength hpassed =>
      obtain ⟨event, hevent⟩ := r.report_none i
      rw [Run.bind_of_ok rfl, hevent]
      have hverdict : r.Verdict i _ := .held hf (hlength ▸ hpassed.holdsAt)
      exact .reported rfl rfl hverdict (congrArg Nat.cast hlength.symm) hpassed.drawn
    | @falsified tuples values cause blame hlength hpassed hvalues hcause hblame =>
      rw [Run.bind_of_ok rfl, Nat.add_comm 1]
      have hverdict := Verdict.violated blame hf hlength hpassed.holdsAt hvalues hcause
      have htuples : (tuples ++ [values]).length = tuples.length + 1 := by
        rw [List.length_append, List.length_singleton]
      generalize hc : counterExample i values (tuples.length + 1)
        (r.source.trialSeed tuples.length) cause blame = c at hverdict
      rcases hplace : c.location with e | place
      · exact .fault (r.report_error i hplace)
      · obtain ⟨event, hevent⟩ := r.report_some i hplace
        have htrial : c.trial = (tuples.length + 1 : Nat) := by rw [← hc]; rfl
        rw [hevent, ← htuples]
        exact .reported (by rw [Run.after, htrial]) (List.append_assoc _ _ _) hverdict
          (congrArg Nat.cast htuples.symm) (hpassed.drawn.concat hvalues)
  · rw [check_of_obstacle hobstacle]
    have hf : ∃ d ∈ i.descriptors, d.HasFunction := by
      by_contra hnone
      push Not at hnone
      rw [obstacle?_eq_none_iff.mpr hnone] at hobstacle
      cases hobstacle
    exact .reported rfl rfl (.aborted hf hobstacle) rfl drawn_nil

/-- What a check reports is its verdict. -/
theorem verdict_of_check {report : Report} (h : (check i r).1.outcome = .ok report) :
    r.Verdict i report := by
  have hchecked := r.checked_check i
  generalize check i r = ended at hchecked h
  cases hchecked with
  | fault hfault => cases hfault.symm.trans h
  | reported ho _ hverdict =>
    obtain rfl := Except.ok.inj (ho.symm.trans h)
    exact hverdict

/-! ## Faults -/

/-- Where a counterexample points can be told if it points along names and integers. -/
theorem exists_location_of_path {values : List Value} {index seed : Nat} {cause : Option Error}
    {blame : Option Blame} (h : ∀ b, blame = some b → b.2.all Segment.isNameOrInteger) :
    ∃ place, (counterExample i values index seed cause blame).location = .ok place := by
  unfold CounterExample.location
  cases blame with
  | none => exact ⟨"", rfl⟩
  | some blame =>
    obtain ⟨text, htext⟩ := Path.exists_render (h blame rfl)
    simp only [counterExample, Option.map_some, Option.getD_some, htext]
    split
    · exact ⟨_, rfl⟩
    · exact ⟨_, rfl⟩

/-- Where a counterexample points can be told. -/
theorem exists_location (hi : i.Tellable) {values : List Value} {index seed : Nat}
    {cause : Option Error} {blame : Option Blame} (hcause : i.predicate.Falsified values cause)
    (hblame : (r.blame i values seed cause).outcome = .ok blame) :
    ∃ place, (counterExample i values index seed cause blame).location = .ok place :=
  exists_location_of_path fun _ hb => blame_path hi hcause (hb ▸ hblame)

/-- A fault of a check is one of its trials, whose report can be told. -/
theorem trials_error_of_check (hi : i.Tellable) {fault : Fault}
    (h : (check i r).1.outcome = .error fault) :
    (∀ d ∈ i.descriptors, ¬ d.HasFunction) ∧
      (r.trials i i.budget 1 r.source).1.outcome = .error fault := by
  rcases hobstacle : obstacle? i.descriptors with _ | e
  · refine ⟨obstacle?_eq_none_iff.mp hobstacle, ?_⟩
    rw [check_of_generable hobstacle, Run.outcome_bind_error] at h
    rcases h with h | ⟨found, hfound, h⟩
    · exact h
    · have hended := r.ended_trials i i.budget 1 r.source
      generalize r.trials i i.budget 1 r.source = ended at hended hfound
      cases hended with
      | fault hfault =>
        rw [hfault] at hfound
        cases hfound
      | held =>
        obtain rfl : none = found := Except.ok.inj hfound
        obtain ⟨event, hevent⟩ := r.report_none i
        rw [hevent] at h
        cases h
      | falsified hlength hpassed hvalues hcause hblame =>
        obtain rfl : some _ = found := Except.ok.inj hfound
        obtain ⟨place, hplace⟩ := exists_location hi hcause hblame
        obtain ⟨event, hevent⟩ := r.report_some i hplace
        rw [hevent] at h
        cases h
  · rw [check_of_obstacle hobstacle] at h
    cases h

/-- A check has a fault only if a draw is given up or the predicate ends it. -/
theorem check_endsWith (hi : i.Tellable) {fault : Fault}
    (h : (check i r).1.outcome = .error fault) : i.predicate.EndsWith fault := by
  obtain ⟨hf, htrials⟩ := trials_error_of_check hi h
  exact trials_error hi hf htrials

/-- A check of an ordinary invariant fails only if a draw is given up. -/
theorem check_error (hi : i.Ordinary) {fault : Fault}
    (h : (check i r).1.outcome = .error fault) : fault = .unfinished :=
  hi.predicate.eq_unfinished (check_endsWith hi.tellable h)

/-- A check comes to a report if its trials can be settled. -/
theorem exists_report_of_settled (hi : i.Ordinary)
    (h : ∀ j < i.budget, r.Settled i (r.source.trialSeed j)) :
    ∃ report, (check i r).1.outcome = .ok report := by
  rcases hcheck : (check i r).1.outcome with fault | report
  · obtain ⟨found, hfound⟩ : ∃ found, (r.trials i i.budget 1 r.source).1.outcome = .ok found :=
      exists_trials_of_settled hi h
    cases hfound.symm.trans (trials_error_of_check hi.tellable hcheck).2
  · exact ⟨report, rfl⟩

/-- What a check reports if the first tuple it draws falsifies the predicate. -/
theorem check_of_falsified (hi : i.Tellable) (hf : ∀ d ∈ i.descriptors, ¬ d.HasFunction)
    (hbudget : i.budget ≠ 0) {values : List Value} (hvalues : r.tuple i 0 = .ok values)
    {cause : Option Error} (hcause : i.predicate.Falsified values cause) {blame : Option Blame}
    (hblame : (r.blame i values (r.source.trialSeed 0) cause).outcome = .ok blame) :
    (check i r).1.outcome = .ok ⟨i.label, .violated, i.budget, 1, r.seed,
      some (counterExample i values 1 (r.source.trialSeed 0) cause blame), none⟩ := by
  have htrial : (r.trial i 1 (r.source.trialSeed 0)).outcome =
      .ok (some (counterExample i values 1 (r.source.trialSeed 0) cause blame)) := by
    rw [trial_of_falsified hvalues hcause, Run.bind_of_ok hblame]
    rfl
  obtain ⟨left, hleft⟩ := Nat.exists_eq_succ_of_ne_zero hbudget
  have htrials : (r.trials i i.budget 1 r.source).1.outcome =
      .ok (some (counterExample i values 1 (r.source.trialSeed 0) cause blame)) := by
    rw [hleft, trials_succ]
    simp only [htrial]
  obtain ⟨place, hplace⟩ := exists_location hi hcause hblame
  obtain ⟨event, hevent⟩ := r.report_some i hplace
  rw [check_of_generable (obstacle?_eq_none_iff.mpr hf), Run.outcome_bind_ok]
  exact ⟨_, htrials, by rw [hevent]; rfl⟩

/-! ## Larger budgets -/

/-- The budget is of no concern to the trials themselves. -/
theorem trials_budget (r : Runner) (i : Invariant) (budget left index : Nat) (source : Twister) :
    r.trials { i with budget } left index source = r.trials i left index source := by
  induction left generalizing index source with
  | zero => rfl
  | succ left ih =>
    rw [trials_succ, trials_succ, ih]
    rfl

/-- With a larger budget the same counterexample is found. -/
theorem check_of_budget_le {budget : Nat} (hle : i.budget ≤ budget) {report : Report}
    {c : CounterExample Error} (h : (check i r).1.outcome = .ok report)
    (hc : report.counterexample = some c) :
    (check { i with budget } r).1.outcome = .ok { report with trialsRequested := budget } := by
  rcases hobstacle : obstacle? i.descriptors with _ | e
  · rw [check_of_generable hobstacle] at h
    obtain ⟨found, hfound, h⟩ := Run.outcome_bind_ok.mp h
    obtain ⟨rfl, ⟨place, hplace⟩, rfl⟩ := eq_some_of_report h hc
    have hsame : r.trials { i with budget } budget 1 r.source = r.trials i i.budget 1 r.source := by
      rw [trials_budget]
      refine trials_of_le hle fun hnone => ?_
      cases hnone.symm.trans hfound
    obtain ⟨event, hevent⟩ := r.report_some { i with budget } hplace
    have hobstacle' : obstacle? { i with budget }.descriptors = none := hobstacle
    rw [check_of_generable hobstacle', Run.outcome_bind_ok]
    refine ⟨some c, ?_, ?_⟩
    · rw [hsame, hfound]
    · rw [hevent]
  · rw [check_of_obstacle hobstacle] at h
    cases h
    cases hc

/-! ## The meaning of a check -/

/-- A check reports the one verdict.  If it is aborted, the predicate is not
called, whatever it is.  If there is a counterexample, its values are those
that its trial seed replays, and larger budgets find the same one. -/
theorem check_verdict (r : Runner) (i : Invariant) (hi : i.Ordinary)
    (hdraws : (check i r).1.Completes) :
    ∃ report, (check i r).1.outcome = .ok report ∧ r.Verdict i report ∧
      (∀ other, r.Verdict i other → withoutBlame other = withoutBlame report) ∧
      ((∃ d ∈ i.descriptors, d.HasFunction) →
        (∃ event, (check i r).1.effects = [.logged event]) ∧
          ∀ predicate, check { i with predicate } r = check i r) ∧
      ∀ c, report.counterexample = some c →
        r.replay (.tuple (i.descriptors.map .descriptor)) c.trialSeed = .ok c.values ∧
          ∀ budget, i.budget ≤ budget →
            (check { i with budget } r).1.outcome = .ok { report with trialsRequested := budget } := by
  have hchecked := r.checked_check i
  generalize hended : check i r = ended at hchecked
  cases hchecked with
  | fault h =>
    rw [hended] at hdraws
    obtain rfl := check_error hi (by rw [hended]; exact h)
    exact absurd h hdraws
  | @reported told report tuples more ho heffects hverdict hlength hdrawn =>
    refine ⟨report, ho, hverdict, fun other hother => hother.unique hverdict, ?_, ?_⟩
    · intro hf
      obtain ⟨e, he⟩ := exists_obstacle hf
      rw [← hended, check_of_obstacle he]
      refine ⟨⟨_, rfl⟩, fun predicate => ?_⟩
      have he' : obstacle? { i with predicate }.descriptors = some e := he
      rw [check_of_obstacle he']
    · intro c hc
      refine ⟨?_, fun budget hle => check_of_budget_le hle (by rw [hended]; exact ho) hc⟩
      rw [r.replay_eq]
      cases hverdict with
      | aborted => cases hc
      | held => cases hc
      | violated blame hf hk hbefore hvalues hcause =>
        cases hc
        exact hvalues

/-- An invariant that no tuple satisfies. -/
def never : Invariant := ⟨"never", [.boolean none], fun _ => pure (.bool false), 3⟩

theorem check_verdict_never :
    let r := ofSeed {} {} 0
    never.Ordinary ∧ (check never r).1.Completes ∧
      ∃ report, (check never r).1.outcome = .ok report ∧ r.Verdict never report ∧
        report.status = .violated := by
  intro r
  have hi : never.Ordinary := by
    refine ⟨?_, fun values fault h => ?_⟩
    · simp [never, Descriptor.WellFormed, Descriptor.NameWellFormed]
    · cases h
  have hdraws : (check never r).1.Completes := by decide +kernel
  obtain ⟨report, ho, hverdict, -⟩ := check_verdict r never hi hdraws
  refine ⟨hi, hdraws, report, ho, hverdict, ?_⟩
  cases hverdict with
  | aborted hf => simp [never, Descriptor.HasFunction] at hf
  | held _ hall =>
    obtain ⟨values, -, hholds⟩ := hall 0 (by decide)
    cases hholds
  | violated => rfl

end Runner

end Conformance
