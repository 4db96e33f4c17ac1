import Conformance.Failure
import Conformance.Proofs.Invariant.Coin
import Conformance.Proofs.Traced

/-!
# Conformance.Proofs.Invariant.Telling

What the report on an invariant tells as a failure.

A part is blamed only where there is one: the argument is one of the tuple
(`Runner.blame_lt`), and without a cause the path is that of a leaf, at which
a drawn value has a part that is canonical (`Descriptor.canonical_follow`).
So the failure of every report can be told, whichever of its three forms it
takes (`Runner.tells_ofCounterExample`), and what it tells of the part is
the leaf that is blamed and what was drawn there.
-/

namespace Conformance

/-! ## Counterexamples -/

namespace CounterExample

/-- A counterexample can be described if its place and its part can be told. -/
theorem exists_describe {c : CounterExample Error} {place : String} {v : Value}
    (hplace : c.location = .ok place) (hv : c.implicated = .ok v) :
    ∃ told, c.describe = .ok told := by
  unfold describe
  rw [hplace, hv]
  by_cases h : place.isEmpty
  · exact ⟨_, by simp only [bind, Except.bind, h, if_true]; rfl⟩
  · exact ⟨_, by simp only [bind, Except.bind, h]; rfl⟩

end CounterExample

/-! ## Blamed arguments -/

/-- A leaf belongs to one of the arguments. -/
theorem Leaf.lt_of_mem_all {ds : List Descriptor} {values : List Value} {leaf : Leaf}
    (h : leaf ∈ Leaf.all ds values) : leaf.argument < ds.length :=
  (List.getElem?_eq_some_iff.mp (Leaf.mem_all.mp h).1).1

/-- A rejected argument is blamed on one of them. -/
theorem attribution_lt {c : Checking} {s : Sampling} {p : Predicate} {ds : List Descriptor}
    {values : List Value} {seed : Nat} {e : Error} {blame : Blame}
    (h : (attribution c s p ds values seed e).outcome = .ok (some blame)) :
    blame.1 < ds.length := by
  obtain ⟨-, -, -, -, -, ⟨d, -, hd, -⟩, -⟩ := exists_heldAt_of_attribution h
  exact (List.getElem?_eq_some_iff.mp hd).1

namespace Runner

variable {r : Runner} {i : Invariant} {values : List Value} {index seed : Nat}

/-- The argument that is blamed is one of the tuple. -/
theorem blame_lt {cause : Option Error} {blame : Blame}
    (h : (r.blame i values seed cause).outcome = .ok (some blame)) :
    blame.1 < i.descriptors.length := by
  cases cause with
  | none =>
    obtain ⟨leaf, hleaf, rfl⟩ := exists_leaf_of_localize h
    exact Leaf.lt_of_mem_all hleaf
  | some e => exact attribution_lt h

/-- Counted from 1, too. -/
theorem blame_position {cause : Option Error} {blame : Blame}
    (h : (r.blame i values seed cause).outcome = .ok (some blame)) :
    1 ≤ (blame.1 : Int) + 1 ∧ (blame.1 : Int) + 1 ≤ i.descriptors.length := by
  have hlt := blame_lt h
  omega

end Runner

/-! ## The failure of a counterexample -/

namespace Failure

/-- What a failure tells of the part that a counterexample blames: the leaf
`e` at its path below the descriptor `d`, and what was drawn there. -/
structure TellsPart (f : Failure) (s : Sampling) (c : CounterExample Error) (n : Nat)
    (d e : Descriptor) (v : Value) : Prop where
  root : c.descriptors[n]? = some d
  value : c.values[n]? = some v
  leaf : (c.path, e) ∈ d.leafPaths
  only : ∀ other, (c.path, other) ∈ d.leafPaths → other = e
  argument : f.argument = some (n + 1)
  path : c.path.render = .ok f.path
  expected : f.expected = e.render
  actual : f.actual = (v.follow c.path).brief
  present : v.follow c.path ≠ .missing
  conforms : (∀ x, Descriptor.NumberDrawnAmong s c.descriptors (Twister.ofSeed c.trialSeed) x →
    x.isFinite) → e.validate (v.follow c.path) = none

/-- What a failure tells of a counterexample. -/
structure TellsCounterExample (f : Failure) (s : Sampling) (c : CounterExample Error) : Prop where
  kind : f.kind = .violation
  trial : f.trial = some c.trial
  argument : ∀ a, f.argument = some a → 1 ≤ a ∧ a ≤ c.descriptors.length
  part : c.cause = none → ∀ a, c.argument = some a →
    ∃ (n : Nat) (d e : Descriptor) (v : Value), a = n ∧ f.TellsPart s c n d e v

section

variable {c : CounterExample Error} {told : String} (label : String)

/-- A failure first tells of a value that did not conform. -/
theorem ofCounterExample_of_mismatch {m : Mismatch} {path : String} (htold : c.describe = .ok told)
    (hm : c.cause.bind Error.mismatch? = some m) (hpath : m.path.render = .ok path) :
    ∃ f, ofCounterExample c label = .ok f ∧ f.kind = .violation ∧ f.trial = some c.trial ∧
      f.argument = c.argument.map (· + 1) := by
  unfold ofCounterExample
  simp only [htold, hm, hpath, bind, Except.bind]
  exact ⟨_, rfl, rfl, rfl, rfl⟩

/-- Otherwise it tells of the part that is blamed. -/
theorem ofCounterExample_of_part {n : Nat} {d e : Descriptor} {v : Value} {path : String}
    (htold : c.describe = .ok told) (hm : c.cause.bind Error.mismatch? = none)
    (hargument : c.argument = some (n : Int)) (hd : c.descriptors[n]? = some d)
    (hpath : c.path.render = .ok path) (he : d.descriptorAt c.path = .ok e)
    (hv : c.implicated = .ok v) :
    ∃ f, ofCounterExample c label = .ok f ∧ f.kind = .violation ∧ f.trial = some c.trial ∧
      f.argument = some (n + 1) ∧ f.path = path ∧ f.expected = e.render ∧ f.actual = v.brief := by
  unfold ofCounterExample
  simp only [htold, hm, hargument, CounterExample.pick?_natCast, hd, hpath, he, hv, bind,
    Except.bind]
  exact ⟨_, rfl, rfl, rfl, rfl, rfl, rfl, rfl⟩

/-- If no part is blamed, it tells of the whole tuple. -/
theorem ofCounterExample_of_tuple (htold : c.describe = .ok told)
    (hm : c.cause.bind Error.mismatch? = none) (hargument : c.argument = none) :
    ∃ f, ofCounterExample c label = .ok f ∧ f.kind = .violation ∧ f.trial = some c.trial ∧
      f.argument = none := by
  unfold ofCounterExample
  simp only [htold, hm, hargument, bind, Except.bind]
  exact ⟨_, rfl, rfl, rfl, rfl⟩

end

end Failure

namespace Runner

variable {r : Runner} {i : Invariant} {values : List Value} {index seed : Nat}

/-- What a counterexample implicates is the part of a drawn value. -/
theorem implicated_counterExample {cause : Option Error} {n : Nat} {path : Path} {v : Value}
    (hv : values[n]? = some v) :
    (counterExample i values index seed cause (some (n, path))).implicated =
      .ok (v.follow path) := by
  simp only [CounterExample.implicated, counterExample, Option.map_some,
    CounterExample.pick?_natCast, hv, Option.getD_some]

/-- What a counterexample implicates can be told, be it nothing. -/
theorem exists_implicated (hlength : i.descriptors.length = values.length)
    {cause : Option Error} {blame : Option Blame}
    (hblame : (r.blame i values seed cause).outcome = .ok blame) :
    ∃ v, (counterExample i values index seed cause blame).implicated = .ok v := by
  cases blame with
  | none => exact ⟨.missing, rfl⟩
  | some blame =>
    have hlt : blame.1 < values.length := hlength ▸ blame_lt hblame
    exact ⟨_, implicated_counterExample (List.getElem?_eq_getElem hlt)⟩

/-- A counterexample to an invariant that can be told can be described. -/
theorem describe_counterExample (hi : i.Tellable) (hf : ∀ d ∈ i.descriptors, ¬ d.HasFunction)
    (hvalues : r.sampling.replay i.descriptors seed = .ok values) {cause : Option Error}
    (hcause : i.predicate.Falsified values cause) {blame : Option Blame}
    (hblame : (r.blame i values seed cause).outcome = .ok blame) (index : Nat) :
    ∃ told, (counterExample i values index seed cause blame).describe = .ok told := by
  have hlength : i.descriptors.length = values.length :=
    (Sampling.canonical_of_replay hf hvalues).length_eq
  obtain ⟨place, hplace⟩ := exists_location hi hcause hblame
  obtain ⟨v, hv⟩ := exists_implicated hlength hblame
  exact CounterExample.exists_describe hplace hv

/-- The part that a search blames is a leaf, and what was drawn there is canonical. -/
theorem exists_part_of_blame (hi : i.Tellable) (hf : ∀ d ∈ i.descriptors, ¬ d.HasFunction)
    (hvalues : r.sampling.replay i.descriptors seed = .ok values) {n : Nat} {path : Path}
    (hblame : (r.blame i values seed none).outcome = .ok (some (n, path))) :
    ∃ d e v, i.descriptors[n]? = some d ∧ values[n]? = some v ∧ (path, e) ∈ d.leafPaths ∧
      (∀ other, (path, other) ∈ d.leafPaths → other = e) ∧ d.descriptorAt path = .ok e ∧
      v.follow path ≠ .missing ∧
      ((∀ x, Descriptor.NumberDrawnAmong r.sampling i.descriptors (Twister.ofSeed seed) x →
        x.isFinite) → e.validate (v.follow path) = none) := by
  obtain ⟨leaf, hleaf, hposition⟩ := exists_leaf_of_localize hblame
  obtain ⟨rfl, rfl⟩ := Prod.mk.inj hposition
  obtain ⟨hd, hv, e, he⟩ := Leaf.mem_all.mp hleaf
  have hwf : leaf.descriptor.WellFormed := hi.wellFormed _ (List.mem_of_getElem? hd)
  obtain ⟨hat, hplain⟩ :=
    Descriptor.descriptorAt_of_mem_leafPaths leaf.descriptor hwf leaf.path e he
  refine ⟨leaf.descriptor, e, leaf.value, hd, hv, he, fun other hother => ?_, hat, ?_, ?_⟩
  · obtain ⟨hother, -⟩ :=
      Descriptor.descriptorAt_of_mem_leafPaths leaf.descriptor hwf leaf.path other hother
    exact Except.ok.inj (hother.symm.trans hat)
  · have hcanonical := Leaf.canonical_of_mem_all (Sampling.canonical_of_replay hf hvalues) hleaf
    exact (Descriptor.canonical_follow leaf.path hwf hplain hat hcanonical).2.ne_missing
  · intro hfinite
    have hcanonical :=
      Leaf.canonical_of_mem_all (Sampling.canonical_of_replay_good hf hvalues hfinite) hleaf
    obtain ⟨hewf, hpart⟩ := Descriptor.canonical_follow leaf.path hwf hplain hat hcanonical
    exact Descriptor.validate_of_canonical e hewf _ hpart

/-- It is told as a failure, too. -/
theorem tells_ofCounterExample (hi : i.Tellable) (hf : ∀ d ∈ i.descriptors, ¬ d.HasFunction)
    (hvalues : r.sampling.replay i.descriptors seed = .ok values) {cause : Option Error}
    (hcause : i.predicate.Falsified values cause) {blame : Option Blame}
    (hblame : (r.blame i values seed cause).outcome = .ok blame) (index : Nat) (label : String) :
    ∃ f, Failure.ofCounterExample (counterExample i values index seed cause blame) label = .ok f ∧
      f.TellsCounterExample r.sampling (counterExample i values index seed cause blame) := by
  obtain ⟨told, htold⟩ := describe_counterExample hi hf hvalues hcause hblame index
  rcases hmismatch : cause.bind Error.mismatch? with _ | m
  · rcases blame with _ | ⟨n, path⟩
    · obtain ⟨f, hf, hkind, htrial, hargument⟩ :=
        Failure.ofCounterExample_of_tuple label htold hmismatch rfl
      refine ⟨f, hf, hkind, htrial, fun a ha => ?_, fun _ a ha => by cases ha⟩
      rw [hargument] at ha
      cases ha
    · -- a raised error blames a part only with a value that did not conform
      obtain rfl : cause = none := by
        rcases cause with _ | e
        · rfl
        · obtain ⟨m, hm, -⟩ := attribution_path hblame
          cases hm.symm.trans hmismatch
      obtain ⟨d, e, v, hd, hv, he, honly, hat, hpresent, hconforms⟩ :=
        exists_part_of_blame hi hf hvalues hblame
      obtain ⟨text, htext⟩ := Path.exists_render (blame_path hi hcause hblame)
      obtain ⟨f, hf, hkind, htrial, hargument, hpath, hexpected, hactual⟩ :=
        Failure.ofCounterExample_of_part label htold hmismatch rfl hd htext hat
          (implicated_counterExample hv)
      refine ⟨f, hf, hkind, htrial, fun a ha => ?_, fun _ a ha => ?_⟩
      · obtain rfl : (n : Int) + 1 = a := Option.some.inj (hargument.symm.trans ha)
        exact blame_position hblame
      · obtain rfl : (n : Int) = a := Option.some.inj ha
        exact ⟨n, d, e, v, rfl, hd, hv, he, honly, hargument, hpath ▸ htext, hexpected, hactual,
          hpresent, hconforms⟩
  · obtain ⟨e, rfl, hm⟩ := Option.bind_eq_some_iff.mp hmismatch
    obtain ⟨text, htext⟩ := Path.exists_render (hi.places.mismatch_path hcause hm)
    obtain ⟨f, hf, hkind, htrial, hargument⟩ :=
      Failure.ofCounterExample_of_mismatch label htold hmismatch htext
    refine ⟨f, hf, hkind, htrial, fun a ha => ?_, fun hnone => by cases hnone⟩
    rw [hargument] at ha
    cases blame with
    | none => cases ha
    | some blame =>
      obtain rfl : (blame.1 : Int) + 1 = a := Option.some.inj ha
      exact blame_position hblame

end Runner

/-! ## The failure of a report -/

/-- What the failure of a report tells, if there is one. -/
structure Report.ToldAs (report : Report) (s : Sampling) (i : Invariant)
    (told : Option Failure) : Prop where
  held : told = none ↔ report.status = .held
  aborted : told.map (·.kind) = some .unsupported ↔ report.status = .aborted
  violated : told.map (·.kind) = some .violation ↔ report.status = .violated
  counterexample : ∀ f, told = some f → report.status = .violated →
    f.trial = some report.trialsRun ∧ ∃ c, report.counterexample = some c ∧
      c.descriptors = i.descriptors ∧ s.replay i.descriptors c.trialSeed = .ok c.values ∧
      f.TellsCounterExample s c

/-- What is told of a violation. -/
theorem Report.ToldAs.exists_failure {report : Report} {s : Sampling} {i : Invariant}
    {told : Option Failure} (h : report.ToldAs s i told) (hstatus : report.status = .violated) :
    ∃ f c, told = some f ∧ report.counterexample = some c ∧ f.trial = some report.trialsRun ∧
      f.TellsCounterExample s c := by
  rcases told with _ | f
  · rw [h.held.mp rfl] at hstatus
    cases hstatus
  · obtain ⟨htrial, c, hc, -, -, htells⟩ := h.counterexample f rfl hstatus
    exact ⟨f, c, rfl, hc, htrial, htells⟩

/-! ## Raised reports -/

namespace Error

/-- An error that a report is raised as. -/
def isVerdict : Error → Bool
  | violation .. | unsupported .. => true
  | _ => false

variable {e : Error}

/-- A report that is raised is an error of the engine. -/
theorem isConformance_of_isVerdict (h : e.isVerdict) : e.isConformance := by
  cases e with
  | violation | unsupported => rfl
  | _ => cases h

theorem isOrdinary_of_isVerdict (h : e.isVerdict) : e.isOrdinary := by
  cases e with
  | violation | unsupported => rfl
  | _ => cases h

end Error

namespace Declaration

/-- Descriptors are refused as descriptors. -/
theorem checkDescriptors_error : {vs : List Value} → {n : Nat} → {e : Error} →
    checkDescriptors n vs = .error e → ∃ message, e = .descriptor message
  | v :: vs, n, e, h => by
      cases v with
      | descriptor d =>
        rw [checkDescriptors] at h
        rcases hrest : checkDescriptors (n + 1) vs with e' | ds
        · rw [hrest] at h
          cases h
          exact checkDescriptors_error hrest
        · rw [hrest] at h
          cases h
      | _ =>
        cases h
        exact ⟨_, rfl⟩

/-- No report is raised for descriptors that are refused. -/
theorem descriptorList_error {v : Value} {e : Error} (h : descriptorList v = .error e) :
    ¬ e.isVerdict := by
  unfold descriptorList at h
  split at h
  · cases h
  · split at h
    · obtain ⟨message, rfl⟩ := checkDescriptors_error h
      exact Bool.false_ne_true
    · cases h
      exact Bool.false_ne_true

theorem function_error {v : Value} {e : Error} (h : function v = .error e) : ¬ e.isVerdict := by
  unfold function at h
  split at h
  · cases h
  · cases h
    exact Bool.false_ne_true

theorem budget_error {defaultTrials : Int} {v : Value} {e : Error}
    (h : budget defaultTrials v = .error e) : ¬ e.isVerdict := by
  unfold budget at h
  split at h
  · split at h
    · cases h
    · cases h
      exact Bool.false_ne_true
  · split at h
    · cases h
    · cases h
      exact Bool.false_ne_true
  · cases h
    exact Bool.false_ne_true

/-- No declaration is refused with an error that a report is raised as. -/
theorem not_isVerdict_of_refused {predicate : Callable → Predicate} {defaultTrials : Int}
    {d : Declaration} {e : Error} (h : d.invariant predicate defaultTrials = .error e) :
    ¬ e.isVerdict := by
  unfold invariant at h
  rcases hds : descriptorList d.descriptors with e' | ds
  · rw [hds] at h
    cases h
    exact descriptorList_error hds
  · rcases hf : function d.predicate with e' | f
    · rw [hds, hf] at h
      cases h
      exact function_error hf
    · rcases hn : budget defaultTrials d.trials with e' | n
      · rw [hds, hf, hn] at h
        cases h
        exact budget_error hn
      · rw [hds, hf, hn] at h
        cases h

end Declaration

namespace Runner

variable {r : Runner} {i : Invariant}

/-- What keeps descriptors from being sampled is a function at a place that
can be written. -/
theorem exists_unsupported_of_obstacle {ds : List Descriptor} {e : Error}
    (h : obstacle? ds = some e) :
    ∃ message path, e = .unsupported message path ∧ path.all Segment.isNameOrInteger := by
  obtain ⟨d, -, hd⟩ := List.exists_of_findSome?_eq_some h
  rcases hfound : d.firstFunction? with _ | ⟨path, f⟩
  · rw [Descriptor.ensureGenerable, hfound] at hd
    cases hd
  · obtain ⟨message, hrefused⟩ := Descriptor.ensureGenerable_of_firstFunction? hfound
    rw [hrefused] at hd
    cases hd
    exact ⟨message, path, rfl, Path.isNameOrInteger_of_isPlain
      (Descriptor.all_isPlain_of_firstFunction? d path f hfound)⟩

/-- The failure of the report of a check can be told. -/
theorem check_told (hi : i.Tellable) {report : Report}
    (h : (check i r).1.outcome = .ok report) :
    ∃ told, Failure.ofReport report = .ok told ∧ report.ToldAs r.sampling i told := by
  have hverdict := verdict_of_check h
  cases hverdict with
  | aborted hf he =>
    obtain ⟨message, path, rfl, hpath⟩ := exists_unsupported_of_obstacle he
    obtain ⟨text, htext⟩ := Path.exists_render hpath
    refine ⟨some { kind := .unsupported, message, path := text, invariant := i.label }, ?_, ?_⟩
    · simp only [Failure.ofReport, Failure.ofError, Error.mismatch?, htext, bind, Except.bind]
      rfl
    · exact ⟨by simp, by simp, by simp, fun f _ hstatus => by cases hstatus⟩
  | held hf hall => exact ⟨none, rfl, by simp, by simp, by simp, fun f hf => by cases hf⟩
  | @violated k values cause blame hf hk hbefore hvalues hcause =>
    obtain ⟨-, values', index, seed, cause', blame', hc, hvalues', hcause', hblame⟩ :=
      exists_blame_of_check h rfl
    obtain ⟨f, hf, htells⟩ :=
      tells_ofCounterExample hi hf hvalues' hcause' hblame index i.label
    rw [← hc] at hf htells
    have hkind := htells.kind
    refine ⟨some f, ?_, by simp, by simp [hkind], by simp [hkind], fun f' hf' _ => ?_⟩
    · simp only [Failure.ofReport, hf]
      rfl
    · obtain rfl : f = f' := Option.some.inj hf'
      exact ⟨htells.trial, _, rfl, rfl, hvalues, htells⟩

/-- The report of a check can be summed up, and raised unless the invariant held. -/
theorem check_summed (hi : i.Tellable) {report : Report}
    (h : (check i r).1.outcome = .ok report) :
    (∃ o, Outcome.ofReport report = .ok o) ∧
      (report.status ≠ .held → ∃ e, report.demand = .error e ∧ e.isVerdict) := by
  have hverdict := verdict_of_check h
  cases hverdict with
  | aborted hf he =>
    obtain ⟨message, path, rfl, -⟩ := exists_unsupported_of_obstacle he
    exact ⟨⟨_, rfl⟩, fun _ => ⟨_, rfl, rfl⟩⟩
  | held => exact ⟨⟨_, rfl⟩, fun hstatus => absurd rfl hstatus⟩
  | violated =>
    obtain ⟨hf, values, index, seed, cause, blame, hc, hvalues, hcause, hblame⟩ :=
      exists_blame_of_check h rfl
    obtain ⟨told, htold⟩ := describe_counterExample hi hf hvalues hcause hblame index
    rw [← hc] at htold
    refine ⟨?_, fun _ => ?_⟩
    · simp only [Outcome.ofReport, Report.summary, htold]
      exact ⟨_, rfl⟩
    · simp only [Report.demand, Error.ofCounterExample, htold, bind, Except.bind]
      exact ⟨_, rfl, rfl⟩

/-- What keeps a declaration from being checked is no report that is raised. -/
theorem not_isVerdict_of_fault {predicate : Callable → Predicate} {d : Declaration}
    (hd : ∀ i, d.invariant predicate r.checking.defaultTrials = .ok i → i.Tellable) {e : Error}
    {ticket : Option Ticket}
    (h : (declareBy predicate d r).1.outcome = .error (.raised e ticket)) : ¬ e.isVerdict := by
  rw [declareBy_eq] at h
  split at h
  · next i hi =>
    have hfault := (check_endsWith (hd i hi) h).not_isOrdinary
    exact fun he => hfault (Error.isOrdinary_of_isVerdict he)
  · next e' hrefused =>
    cases h
    exact Declaration.not_isVerdict_of_refused hrefused

/-- The failure of the report on a declaration can be told, whatever the runner
has gone through: there is none exactly if the invariant held, and its kind
says whether the check was aborted or found a counterexample.  Of a
counterexample without a cause it tells the leaf that is blamed and what was
drawn there. -/
theorem declare_told (predicate : Callable → Predicate) (d : Declaration) (r : Runner)
    (hd : ∀ i, d.invariant predicate r.checking.defaultTrials = .ok i → i.Tellable)
    {report : Report} (h : (declareBy predicate d r).1.outcome = .ok report) :
    ∃ i told, d.invariant predicate r.checking.defaultTrials = .ok i ∧
      Failure.ofReport report = .ok told ∧ report.ToldAs r.sampling i told := by
  obtain ⟨i, hi, hcheck⟩ := exists_check_of_declareBy h
  obtain ⟨told, htold, hreport⟩ := check_told (hd i hi) hcheck
  exact ⟨i, told, hi, htold, hreport⟩

/-- Rejects its first argument. -/
def rejecting : Predicate := fun values =>
  Run.raise (.argument ⟨[.field "hp"], .ofInteger .uint8, .int 300, "out of range [0, 255]"⟩ "hit"
    (values.headD .nothing) (.argument 0 []))

/-- A declaration over one boolean. -/
def oneBoolean : Declaration :=
  ⟨.descriptor (.boolean none), .function (.builtin .abs), .int 1, "hits"⟩

/-- A rejected argument is told, and so is one that is blamed after a search. -/
theorem declare_told_oneBoolean :
    (let r := ofSeed {} {} 0
    (∀ i, oneBoolean.invariant (fun _ => rejecting) r.checking.defaultTrials = .ok i →
      i.Tellable) ∧
      ∃ report f c, (declareBy (fun _ => rejecting) oneBoolean r).1.outcome = .ok report ∧
        Failure.ofReport report = .ok (some f) ∧ report.counterexample = some c ∧
        c.argument = some 0 ∧ f.trial = some report.trialsRun ∧
        f.TellsCounterExample r.sampling c) ∧
    let r := ofSeed {} {} 2
    (∀ i, oneBoolean.invariant (fun _ => .first) r.checking.defaultTrials = .ok i →
      i.Tellable) ∧
      ∃ report f c, (declareBy (fun _ => .first) oneBoolean r).1.outcome = .ok report ∧
        Failure.ofReport report = .ok (some f) ∧ report.counterexample = some c ∧
        c.cause = none ∧ f.argument = some 1 ∧ f.path = "" ∧
        f.TellsPart r.sampling c 0 (.boolean none) (.boolean none) (.bool false) := by
  refine ⟨?_, ?_⟩
  · have hi : ∀ i, oneBoolean.invariant (fun _ => rejecting) 100 = .ok i → i.Tellable := by
      intro i hi
      obtain rfl : _ = i := Except.ok.inj hi
      refine ⟨?_, fun values e ticket h m hm => ?_⟩
      · simp [Descriptor.WellFormed, Descriptor.NameWellFormed]
      · cases h
        cases hm
        rfl
    have hrun : (declareBy (fun _ => rejecting) oneBoolean (ofSeed {} {} 0)).1.outcome.toOption.any
        (fun report => report.status == .violated &&
          report.counterexample.all (·.argument == some 0)) = true := by
      decide +kernel
    obtain ⟨report, ho, hany⟩ := exists_of_toOption hrun
    obtain ⟨hstatus, hall⟩ := Bool.and_eq_true_iff.mp hany
    have hstatus : report.status = .violated := eq_of_beq hstatus
    obtain ⟨i, told, -, htold, hreport⟩ :=
      declare_told (fun _ => rejecting) oneBoolean (ofSeed {} {} 0) hi ho
    obtain ⟨f, c, rfl, hc, htrial, htells⟩ := hreport.exists_failure hstatus
    have hargument : c.argument = some 0 := eq_of_beq ((Option.all_eq_true _ _).mp hall c hc)
    exact ⟨hi, report, f, c, ho, htold, hc, hargument, htrial, htells⟩
  · have hinvariant : oneBoolean.invariant (fun _ => .first) 100 =
        .ok ⟨"hits", [.boolean none], .first, 1⟩ := rfl
    have hi : (⟨"hits", [.boolean none], .first, 1⟩ : Invariant).Ordinary := by
      refine ⟨?_, Predicate.isOrdinary_first⟩
      simp [Descriptor.WellFormed, Descriptor.NameWellFormed]
    have htellable : ∀ i, oneBoolean.invariant (fun _ => .first) 100 = .ok i → i.Tellable := by
      intro i hi'
      obtain rfl := Except.ok.inj (hinvariant.symm.trans hi')
      exact hi.tellable
    obtain ⟨vs, ho⟩ := check_coins_two hi rfl rfl (List.forall_mem_nil _) (by decide)
    have hdeclare : declareBy (fun _ => .first) oneBoolean (ofSeed {} {} 2) = check _ _ :=
      declareBy_of_ok hinvariant
    rw [← hdeclare] at ho
    obtain ⟨i, told, -, htold, hreport⟩ :=
      declare_told (fun _ => .first) oneBoolean (ofSeed {} {} 2) htellable ho
    obtain ⟨f, c, rfl, hc, -, htells⟩ := hreport.exists_failure rfl
    obtain rfl := Option.some.inj hc
    obtain ⟨n, d, e, v, hn, hpart⟩ := htells.part rfl 0 rfl
    obtain rfl : 0 = n := Int.ofNat.inj hn
    obtain rfl : .boolean none = d := Option.some.inj hpart.root
    obtain rfl : .bool false = v := Option.some.inj hpart.value
    obtain rfl : .boolean none = e := hpart.only _ List.mem_cons_self
    exact ⟨htellable, _, f, _, ho, htold, rfl, rfl, hpart.argument,
      (Except.ok.inj hpart.path).symm, hpart⟩

end Runner

end Conformance
