import Conformance.Proofs.Descriptor.Unnamed
import Conformance.Proofs.Invariant.Stream

/-!
# Conformance.Proofs.Invariant.Names

Checks of invariants do not look at display names.

The invariant without names draws the same tuples, searches the same leaves
with the same redraws, and blames the same part, trial by trial
(`outcome_trial_unnamed`, `trials_unnamed`).  So two invariants over equal
descriptors are checked alike, and so are two declarations of them.
-/

namespace Conformance

/-! ## The search without names -/

/-- A leaf of a value whose descriptor has no names. -/
def Leaf.unnamed (leaf : Leaf) : Leaf :=
  { leaf with descriptor := leaf.descriptor.unnamed }

namespace Leaf

variable {s : Sampling} {p : Predicate} {ds : List Descriptor} {values : List Value} {leaf : Leaf}

/-- The leaves of a tuple are the same but for display names. -/
theorem all_unnamed (ds : List Descriptor) (values : List Value) :
    Leaf.all (ds.map Descriptor.unnamed) values = (Leaf.all ds values).map Leaf.unnamed := by
  unfold Leaf.all
  simp only [List.zip_map_left, List.zipIdx_map, List.flatMap_map, List.map_flatMap,
    Prod.map_fst, Prod.map_snd, Descriptor.leafPaths_unnamed, List.map_map]
  rfl

/-- A redraw of a leaf is the same. -/
theorem redrawHolds_unnamed {e : Descriptor}
    (hat : leaf.descriptor.descriptorAt leaf.path = .ok e) (he : ¬ e.HasFunction) (attempts : Nat) :
    leaf.unnamed.redrawHolds s p values attempts = leaf.redrawHolds s p values attempts := by
  induction attempts with
  | zero => rfl
  | succ attempts ih =>
    have hdraw : leaf.unnamed.descriptor.generateAt s leaf.unnamed.path leaf.unnamed.value =
        leaf.descriptor.generateAt s leaf.path leaf.value :=
      Descriptor.generateAt_unnamed leaf.path leaf.value hat he
    rw [redrawHolds, redrawHolds, hdraw, ih]
    rfl

theorem firstToHold_unnamed {attempts : Nat} {leaves : List Leaf}
    (h : ∀ leaf ∈ leaves, ∃ e, leaf.descriptor.descriptorAt leaf.path = .ok e ∧ ¬ e.HasFunction) :
    firstToHold s attempts p values (leaves.map unnamed) =
      firstToHold s attempts p values leaves := by
  induction leaves with
  | nil => rfl
  | cons leaf leaves ih =>
    obtain ⟨⟨e, hat, he⟩, hleaves⟩ := List.forall_mem_cons.mp h
    rw [List.map_cons, firstToHold, firstToHold, redrawHolds_unnamed hat he, ih hleaves]
    rfl

end Leaf

section

variable {c : Checking} {s : Sampling} {p : Predicate} {ds : List Descriptor}
variable {values : List Value} {seed : Nat}

/-- The search finds the same part. -/
theorem localize_unnamed (hwf : ∀ d ∈ ds, d.WellFormed) (hf : ∀ d ∈ ds, ¬ d.HasFunction) :
    localize c s p (ds.map Descriptor.unnamed) values seed = localize c s p ds values seed := by
  unfold localize
  rw [Leaf.all_unnamed, Leaf.firstToHold_unnamed]
  intro leaf hleaf
  obtain ⟨e, -, hat, he⟩ := Leaf.exists_part_of_mem_all hwf hf hleaf
  exact ⟨e, hat, he⟩

/-- What is written in a declaration is no display name. -/
theorem Origin.isWritten_unnamed (o : Origin) :
    o.isWritten (ds.map Descriptor.unnamed) = o.isWritten ds := by
  unfold isWritten
  cases o with
  | given => rfl
  | made => rfl
  | argument i steps =>
    dsimp only
    rw [List.getElem?_map]
    cases ds[i]? with
    | none => rfl
    | some d =>
      simp only [Option.map_some, Option.bind_some, Descriptor.along_unnamed]
      cases d.along steps with
      | none => rfl
      | some e =>
        cases e with
        | _ => rfl

/-- The same drawn values are the object. -/
theorem Origin.isDrawn_unnamed (i : Nat) (v w : Value) (o : Origin) :
    o.isDrawn (ds.map Descriptor.unnamed) i v w = o.isDrawn ds i v w := by
  simp only [isDrawn, isDrawn.existsOnce, isWritten_unnamed]

/-- The same drawn values hold an object. -/
theorem holders_unnamed (w : Value) (o : Origin) :
    holders (ds.map Descriptor.unnamed) values w o = holders ds values w o := by
  unfold holders
  simp only [List.zip_map_left, List.zipIdx_map, List.filter_map, List.map_map,
    Origin.isDrawn_unnamed, Function.comp_def, Prod.map_fst, Prod.map_snd,
    Descriptor.conforms_unnamed, id_eq]

/-- A rejected argument is the fault of the same part. -/
theorem attribution_unnamed (hwf : ∀ d ∈ ds, d.WellFormed) (hf : ∀ d ∈ ds, ¬ d.HasFunction)
    (e : Error) :
    attribution c s p (ds.map Descriptor.unnamed) values seed e =
      attribution c s p ds values seed e := by
  unfold attribution
  simp only [holders_unnamed, localize_unnamed hwf hf]

/-- A seed replays the same tuple. -/
theorem Sampling.replay_unnamed (hf : ∀ d ∈ ds, ¬ d.HasFunction) (seed : Int) :
    s.replay (ds.map Descriptor.unnamed) seed = s.replay ds seed := by
  rw [replay, replay, Descriptor.generateAll_unnamed hf]

end

/-! ## Trials without names -/

/-- An invariant over descriptors without names, which is called nothing. -/
def Invariant.unnamed (i : Invariant) : Invariant :=
  { i with label := "", descriptors := i.descriptors.map Descriptor.unnamed }

/-- A counterexample over descriptors without names. -/
def CounterExample.unnamed (c : CounterExample Error) : CounterExample Error :=
  { c with descriptors := c.descriptors.map Descriptor.unnamed }

namespace Runner

variable {r : Runner} {i : Invariant}

section

variable (hwf : ∀ d ∈ i.descriptors, d.WellFormed) (hf : ∀ d ∈ i.descriptors, ¬ d.HasFunction)

include hwf hf in
/-- The same part is blamed. -/
theorem blame_unnamed (values : List Value) (seed : Nat) (cause : Option Error) :
    r.blame i.unnamed values seed cause = r.blame i values seed cause := by
  cases cause with
  | none => exact localize_unnamed hwf hf
  | some e => exact attribution_unnamed hwf hf e

include hwf hf in
/-- A trial draws the same tuple and comes to the same counterexample. -/
theorem outcome_trial_unnamed (index seed : Nat) :
    (r.trial i.unnamed index seed).outcome =
      (r.trial i index seed).outcome.map (Option.map CounterExample.unnamed) := by
  have hreplay : r.sampling.replay i.unnamed.descriptors seed =
      r.sampling.replay i.descriptors seed := Sampling.replay_unnamed hf seed
  rcases hvalues : r.sampling.replay i.descriptors seed with fault | values
  · unfold trial
    rw [hreplay, hvalues]
    rfl
  · rw [hvalues] at hreplay
    rcases i.predicate.holds_or_falsified values with hp | ⟨cause, hcause⟩ | ⟨fault, h, hfault⟩
    · rw [trial_of_holds hvalues hp, trial_of_holds hreplay hp]
      rfl
    · rw [trial_of_falsified hvalues hcause, trial_of_falsified hreplay hcause,
        blame_unnamed hwf hf, Run.outcome_after, Run.outcome_after]
      rcases hblame : (r.blame i values seed cause).outcome with fault | blame
      · rw [Run.bind_of_error hblame, Run.bind_of_error hblame]
        rfl
      · rw [Run.bind_of_ok hblame, Run.bind_of_ok hblame]
        rfl
    · rw [trial_of_fault hvalues h hfault, trial_of_fault hreplay h hfault]
      rfl

include hwf hf in
/-- So do successive trials, which take the same seeds. -/
theorem trials_unnamed (left index : Nat) (source : Twister) :
    (r.trials i.unnamed left index source).1.outcome =
        (r.trials i left index source).1.outcome.map (Option.map CounterExample.unnamed) ∧
      (r.trials i.unnamed left index source).2 = (r.trials i left index source).2 := by
  induction left generalizing index source with
  | zero => exact ⟨rfl, rfl⟩
  | succ left ih =>
    -- the seed is taken before the trial, so the sources agree whatever the trial comes to
    have htrial := outcome_trial_unnamed (r := r) hwf hf index (source.trialSeed 0)
    rw [trials_succ, trials_succ, htrial]
    rcases hfound : (r.trial i index (source.trialSeed 0)).outcome with fault | found
    · exact ⟨htrial, rfl⟩
    · cases found with
      | none => exact ih (index + 1) (source.afterSeeds 1)
      | some c => exact ⟨htrial, rfl⟩

end

end Runner

/-! ## Reports that agree -/

/-- Refusals for a function at the same place, in words of their own. -/
inductive Error.Alike : Error → Error → Prop
  | unsupported (message message' : String) (path : Path) :
    Alike (.unsupported message path) (.unsupported message' path)

/-- Counterexamples that agree, over descriptors that are equal. -/
structure CounterExample.Alike (c c' : CounterExample Error) : Prop where
  values : c.values = c'.values
  descriptors : List.Forall₂ (fun d e => d.same e = true) c.descriptors c'.descriptors
  trial : c.trial = c'.trial
  trialSeed : c.trialSeed = c'.trialSeed
  argument : c.argument = c'.argument
  path : c.path = c'.path
  cause : c.cause = c'.cause

/-- Reports that agree but for what the invariant is called. -/
structure Report.Alike (report report' : Report) : Prop where
  status : report.status = report'.status
  trialsRequested : report.trialsRequested = report'.trialsRequested
  trialsRun : report.trialsRun = report'.trialsRun
  seed : report.seed = report'.seed
  counterexample : Option.Rel CounterExample.Alike report.counterexample report'.counterexample
  error : Option.Rel Error.Alike report.error report'.error

/-- Checks that end with the same fault, or with reports that agree. -/
inductive Report.EndAlike : Except Fault Report → Except Fault Report → Prop
  | fault (fault : Fault) : EndAlike (.error fault) (.error fault)
  | reported {report report'} (h : report.Alike report') : EndAlike (.ok report) (.ok report')

/-- Counterexamples that differ in display names only are alike. -/
theorem CounterExample.alike_of_unnamed {c c' : CounterExample Error}
    (h : c.unnamed = c'.unnamed) : c.Alike c' where
  values := congrArg (·.values) h
  descriptors := Descriptor.forall₂_same_iff.mpr (congrArg (·.descriptors) h)
  trial := congrArg (·.trial) h
  trialSeed := congrArg (·.trialSeed) h
  argument := congrArg (·.argument) h
  path := congrArg (·.path) h
  cause := congrArg (·.cause) h

/-- Counterexamples that are alike point at the same place. -/
theorem CounterExample.Alike.location_eq {c c' : CounterExample Error} (h : c.Alike c') :
    c'.location = c.location := by
  unfold location
  rw [h.argument, h.path]

/-! ## Equal descriptors -/

namespace Runner

variable {r : Runner} {i j : Invariant}

/-- The same function keeps descriptors from being drawn. -/
theorem obstacle?_alike {ds es : List Descriptor}
    (h : List.Forall₂ (fun d e => d.same e = true) ds es) :
    Option.Rel Error.Alike (obstacle? ds) (obstacle? es) := by
  induction h with
  | nil => exact .none
  | @cons d e ds es hde hrest ih =>
    unfold obstacle? at ih ⊢
    rw [List.findSome?_cons, List.findSome?_cons]
    rcases Descriptor.ensureGenerable_alike hde with ⟨hd, he⟩ | ⟨message, message', path, hd, he⟩
    · rw [Descriptor.ensureGenerable_of_not_hasFunction hd,
        Descriptor.ensureGenerable_of_not_hasFunction he]
      exact ih
    · rw [hd, he]
      exact .some (.unsupported message message' path)

/-- Violations are reported alike if their counterexamples agree. -/
theorem report_some_alike (hbudget : i.budget = j.budget) {c c' : CounterExample Error}
    (hc : c.Alike c') :
    Report.EndAlike (r.report i (some c)).outcome (r.report j (some c')).outcome := by
  rcases hplace : c.location with error | place
  · rw [r.report_error i hplace, r.report_error j (hc.location_eq.trans hplace)]
    exact .fault _
  · obtain ⟨event, hevent⟩ := r.report_some i hplace
    obtain ⟨event', hevent'⟩ := r.report_some j (hc.location_eq.trans hplace)
    rw [hevent, hevent']
    exact .reported ⟨rfl, congrArg Nat.cast hbudget, hc.trial, rfl, .some hc, .none⟩

/-- Trials that come to the same without names are reported alike. -/
theorem report_alike (hbudget : i.budget = j.budget)
    {told told' : Run (Option (CounterExample Error))}
    (h : told.outcome.map (Option.map CounterExample.unnamed) =
      told'.outcome.map (Option.map CounterExample.unnamed)) :
    Report.EndAlike (told >>= r.report i).outcome (told' >>= r.report j).outcome := by
  rcases ho : told.outcome with fault | found <;> rcases ho' : told'.outcome with fault' | found' <;>
    rw [ho, ho'] at h
  · obtain rfl : fault = fault' := Except.error.inj h
    rw [Run.bind_of_error ho, Run.bind_of_error ho']
    exact .fault fault
  · cases h
  · cases h
  · have hfound : found.map CounterExample.unnamed = found'.map CounterExample.unnamed :=
      Except.ok.inj h
    rw [Run.bind_of_ok ho, Run.bind_of_ok ho', Run.outcome_after, Run.outcome_after]
    rcases found with _ | c <;> rcases found' with _ | c'
    · exact .reported ⟨rfl, congrArg Nat.cast hbudget, congrArg Nat.cast hbudget, rfl, .none, .none⟩
    · cases hfound
    · cases hfound
    · exact report_some_alike hbudget (CounterExample.alike_of_unnamed (Option.some.inj hfound))

/-- Invariants that agree without names are checked alike. -/
theorem check_alike (r : Runner) (hi : ∀ d ∈ i.descriptors, d.WellFormed)
    (hj : ∀ d ∈ j.descriptors, d.WellFormed) (h : i.unnamed = j.unnamed) :
    Report.EndAlike (check i r).1.outcome (check j r).1.outcome ∧ (check i r).2 = (check j r).2 := by
  have hbudget : i.budget = j.budget := congrArg (·.budget) h
  have hobstacle := obstacle?_alike (Descriptor.forall₂_same_iff.mpr (congrArg (·.descriptors) h))
  rcases hoi : obstacle? i.descriptors with _ | error <;>
    rcases hoj : obstacle? j.descriptors with _ | error' <;> rw [hoi, hoj] at hobstacle
  · obtain ⟨htold, hsource⟩ := trials_unnamed (r := r) hi (obstacle?_eq_none_iff.mp hoi)
      i.budget 1 r.source
    obtain ⟨htold', hsource'⟩ := trials_unnamed (r := r) hj (obstacle?_eq_none_iff.mp hoj)
      i.budget 1 r.source
    rw [h, htold'] at htold
    rw [h, hsource'] at hsource
    rw [check_of_generable hoi, check_of_generable hoj, ← hbudget, hsource]
    exact ⟨report_alike hbudget htold.symm, rfl⟩
  · cases hobstacle
  · cases hobstacle
  · cases hobstacle with
    | some herror =>
      rw [check_of_obstacle hoi, check_of_obstacle hoj]
      exact ⟨.reported ⟨rfl, congrArg Nat.cast hbudget, rfl, rfl, .none, .some herror⟩, rfl⟩

/-- Declarations over equal descriptors state invariants that agree, or are
refused alike. -/
theorem invariant_alike {V W : Value} {ds es : List Descriptor}
    (hV : Declaration.descriptorList V = .ok ds) (hW : Declaration.descriptorList W = .ok es)
    (h : List.Forall₂ (fun d e => d.same e = true) ds es) (predicate : Callable → Predicate)
    (defaultTrials : Int) (D : Declaration) :
    (∃ error, { D with descriptors := V }.invariant predicate defaultTrials = .error error ∧
      { D with descriptors := W }.invariant predicate defaultTrials = .error error) ∨
    ∃ i j, { D with descriptors := V }.invariant predicate defaultTrials = .ok i ∧
      { D with descriptors := W }.invariant predicate defaultTrials = .ok j ∧
      i.descriptors = ds ∧ j.descriptors = es ∧ i.unnamed = j.unnamed := by
  unfold Declaration.invariant
  simp only [hV, hW, bind, Except.bind]
  rcases Declaration.function D.predicate with error | f
  · exact .inl ⟨error, rfl, rfl⟩
  · rcases Declaration.budget defaultTrials D.trials with error | budget
    · exact .inl ⟨error, rfl, rfl⟩
    · refine .inr ⟨_, _, rfl, rfl, rfl, rfl, ?_⟩
      simp only [Invariant.unnamed, Descriptor.forall₂_same_iff.mp h]

/-- Declarations over equal descriptors are checked alike. -/
theorem declareBy_alike {V W : Value} {ds es : List Descriptor}
    (hV : Declaration.descriptorList V = .ok ds) (hW : Declaration.descriptorList W = .ok es)
    (h : List.Forall₂ (fun d e => d.same e = true) ds es) (hds : ∀ d ∈ ds, d.WellFormed)
    (hes : ∀ e ∈ es, e.WellFormed) (predicate : Callable → Predicate) (D : Declaration)
    (r : Runner) :
    Report.EndAlike (declareBy predicate { D with descriptors := V } r).1.outcome
        (declareBy predicate { D with descriptors := W } r).1.outcome ∧
      (declareBy predicate { D with descriptors := V } r).2 =
        (declareBy predicate { D with descriptors := W } r).2 := by
  rw [declareBy_eq, declareBy_eq]
  rcases invariant_alike hV hW h predicate r.checking.defaultTrials D with
    ⟨error, hi, hj⟩ | ⟨i, j, hi, hj, rfl, rfl, hij⟩
  · rw [hi, hj]
    exact ⟨.fault _, rfl⟩
  · rw [hi, hj]
    exact check_alike r hds hes hij

end Runner

namespace Descriptor

/-- Display names do not matter.  Descriptors that are equal in structure
differ in names only, at any depth, and

1. a value that departs from one departs from the other, at the same place
   and for the same reason;
2. the same value is drawn for both, and the source is left the same, or both
   are refused for a function at the same place;
3. their leaves are equal, at the same places and in the same order;
4. in an invariant one can stand for the other, among whatever descriptors:
   the check ends with the same fault or with reports that agree, and the
   runner is left the same;
5. a copy under another name is such a descriptor. -/
theorem names_inert {d e : Descriptor} (hd : d.WellFormed) (he : e.WellFormed)
    (h : d.same e = true) :
    d.unnamed = e.unnamed ∧
    (∀ v, Option.Rel Mismatch.Alike (d.validate v) (e.validate v)) ∧
    (∀ s t, (generate s d).runFrom t = (generate s e).runFrom t ∨
      ∃ message message' path,
        (generate s d).runFrom t = (.error (.of (.unsupported message path)), t) ∧
          (generate s e).runFrom t = (.error (.of (.unsupported message' path)), t)) ∧
    List.Forall₂ (fun leaf leaf' => leaf.1 = leaf'.1 ∧ leaf.2.same leaf'.2 = true)
      d.leafPaths e.leafPaths ∧
    (∀ V W before after, Declaration.descriptorList V = .ok (before ++ d :: after) →
      Declaration.descriptorList W = .ok (before ++ e :: after) →
      (∀ f ∈ before ++ after, f.WellFormed) →
      ∀ (predicate : Callable → Predicate) (D : Declaration) (r : Runner),
        Report.EndAlike (Runner.declareBy predicate { D with descriptors := V } r).1.outcome
            (Runner.declareBy predicate { D with descriptors := W } r).1.outcome ∧
          (Runner.declareBy predicate { D with descriptors := V } r).2 =
            (Runner.declareBy predicate { D with descriptors := W } r).2) ∧
    ∀ name f, buildNamed (.descriptor d) name = .ok f → f.WellFormed ∧ d.same f = true := by
  refine ⟨(same_iff_unnamed d e).mp h, validate_alike h, generate_alike h, leafPaths_alike h, ?_,
    fun name f hf => same_of_buildNamed hd hf⟩
  intro V W before after hV hW hothers predicate D r
  have hsame : List.Forall₂ (fun d e => d.same e = true) (before ++ d :: after)
      (before ++ e :: after) := by
    rw [forall₂_same_iff, List.map_append, List.map_append, List.map_cons, List.map_cons,
      (same_iff_unnamed d e).mp h]
  have hwf : ∀ g : Descriptor, g.WellFormed → ∀ f ∈ before ++ g :: after, f.WellFormed := by
    intro g hg f hf
    rcases List.mem_append.mp hf with hf | hf
    · exact hothers f (List.mem_append_left after hf)
    · rcases List.mem_cons.mp hf with rfl | hf
      · exact hg
      · exact hothers f (List.mem_append_right before hf)
  exact Runner.declareBy_alike hV hW hsame (hwf d hd) (hwf e he) predicate D r

/-- A number beside two labels that may be absent, all but one of them named. -/
def titledNumber : Descriptor :=
  pair (some "Row") (number (some "Score"))
    (vector none 2 (maybe (some "Note") (enum (some "Mark") ["hit", "miss"])))

theorem names_inert_titledNumber :
    labelledNumber.WellFormed ∧ titledNumber.WellFormed ∧ labelledNumber.same titledNumber = true ∧
      (∀ v, Option.Rel Mismatch.Alike (labelledNumber.validate v) (titledNumber.validate v)) ∧
      ∀ predicate (D : Declaration) r, Report.EndAlike
        (Runner.declareBy predicate { D with descriptors := .descriptor labelledNumber } r).1.outcome
        (Runner.declareBy predicate { D with descriptors := .descriptor titledNumber } r).1.outcome := by
  have hlabelled : labelledNumber.WellFormed := by
    simp [labelledNumber, WellFormed, NameWellFormed]
  have htitled : titledNumber.WellFormed := by
    simp [titledNumber, WellFormed, NameWellFormed]
  have hsame : labelledNumber.same titledNumber = true := by
    simp [labelledNumber, titledNumber, same]
  obtain ⟨-, hvalidate, -, -, hdeclare, -⟩ := names_inert hlabelled htitled hsame
  refine ⟨hlabelled, htitled, hsame, hvalidate, fun predicate D r => ?_⟩
  exact (hdeclare _ _ [] [] rfl rfl (by simp) predicate D r).1

end Descriptor

end Conformance
