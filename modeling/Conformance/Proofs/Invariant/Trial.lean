import Conformance.Proofs.Invariant.Tuple

/-!
# Conformance.Proofs.Invariant.Trial

What one trial can come to.

A predicate holds of a tuple, is `Falsified` by it, or ends the run.  The
trial of a tuple that falsifies it yields the counterexample, once the
search for the part to blame has ended.  `Runner.Tried` lists these ends
(`tried_trial`).

Only a draw that is given up, or a predicate that raises what is no failure,
keeps a trial from its end (`trial_error`).
A trial that is `Settled` has none of the former.
-/

namespace Conformance

/-! ## Falsified predicates -/

namespace Predicate

/-- What the predicate does on a tuple that falsifies it: it yields a value
that counts as false, or it raises the error that is the cause. -/
inductive Falsified (p : Predicate) (values : List Value) : (cause : Option Error) → Prop
  | false {v} (h : (p values).outcome = .ok v) (hv : v.truthy = false) : Falsified p values none
  | raised {e ticket} (h : (p values).outcome = .error (.raised e ticket)) (he : e.isOrdinary) :
    Falsified p values (some e)

variable {p : Predicate} {values : List Value}

/-- A predicate does not hold of what falsifies it. -/
theorem Falsified.not_holds {cause : Option Error} (h : p.Falsified values cause) :
    p.holds values = Bool.false := by
  unfold holds
  cases h with
  | false h hv => simp only [h, hv]
  | raised h he => simp only [h]

/-- A tuple falsifies a predicate in one way. -/
theorem Falsified.unique {a b : Option Error} (ha : p.Falsified values a)
    (hb : p.Falsified values b) : a = b := by
  cases ha with
  | false h =>
    cases hb with
    | false => rfl
    | raised h' => cases h.symm.trans h'
  | raised h =>
    cases hb with
    | false h' => cases h.symm.trans h'
    | raised h' =>
      cases h.symm.trans h'
      rfl

/-- A predicate holds of a tuple, is falsified by it, or ends the run. -/
theorem holds_or_falsified (p : Predicate) (values : List Value) :
    p.holds values = true ∨ (∃ cause, p.Falsified values cause) ∨
      ∃ fault, (p values).outcome = .error fault ∧ ¬ fault.isOrdinary := by
  unfold holds
  rcases h : (p values).outcome with fault | v
  · cases fault with
    | unfinished => exact .inr (.inr ⟨.unfinished, rfl, Bool.false_ne_true⟩)
    | raised e ticket =>
      by_cases he : e.isOrdinary
      · exact .inr (.inl ⟨some e, .raised h he⟩)
      · exact .inr (.inr ⟨.raised e ticket, rfl, he⟩)
  · cases hv : v.truthy with
    | false => exact .inr (.inl ⟨none, .false h hv⟩)
    | true => exact .inl hv

/-- The places at which a predicate rejects values can be written. -/
def TellsPlaces (p : Predicate) : Prop :=
  ∀ values e ticket, (p values).outcome = .error (.raised e ticket) →
    ∀ m, e.mismatch? = some m → m.path.all Segment.isNameOrInteger

/-- An ordinary predicate rejects values at places that can be written. -/
theorem IsOrdinary.tellsPlaces (hp : p.IsOrdinary) : p.TellsPlaces :=
  fun values _ _ h => (hp values _ h).2

/-- What such a predicate rejects has a place that can be written. -/
theorem TellsPlaces.mismatch_path (hp : p.TellsPlaces) {e : Error}
    (h : p.Falsified values (some e)) {m : Mismatch} (hm : e.mismatch? = some m) :
    m.path.all Segment.isNameOrInteger := by
  cases h with
  | raised h he => exact hp values e _ h m hm

/-- What a predicate does when it is called on tuples in turn. -/
def calls (p : Predicate) (tuples : List (List Value)) : List Effect :=
  tuples.flatMap fun values => (p values).effects

end Predicate

/-! ## The part to blame -/

/-- An invariant over well-formed descriptors whose predicate returns or fails. -/
structure Invariant.Ordinary (i : Invariant) : Prop where
  wellFormed : ∀ d ∈ i.descriptors, d.WellFormed
  predicate : i.predicate.IsOrdinary

/-- An invariant over well-formed descriptors whose predicate rejects values
at places that can be written.  It need not return or fail. -/
structure Invariant.Tellable (i : Invariant) : Prop where
  wellFormed : ∀ d ∈ i.descriptors, d.WellFormed
  places : i.predicate.TellsPlaces

/-- What is ordinary can be told. -/
theorem Invariant.Ordinary.tellable {i : Invariant} (hi : i.Ordinary) : i.Tellable :=
  ⟨hi.wellFormed, hi.predicate.tellsPlaces⟩

/-- A search comes to a result exactly if it is left out, or if the redraws come to it. -/
theorem localize_ok {c : Checking} {s : Sampling} {p : Predicate} {ds : List Descriptor}
    {values : List Value} {seed : Nat} {found : Option Blame} :
    (localize c s p ds values seed).outcome = .ok found ↔
      c.localizeFailures = false ∧ found = none ∨
        c.localizeFailures = true ∧ ∃ t', (Leaf.firstToHold s c.localizationAttempts p values
          (Leaf.all ds values) (redrawSource seed)).outcome = .ok (found, t') := by
  unfold localize
  cases hc : c.localizeFailures with
  | false => simp [eq_comm]
  | true =>
    rw [if_pos rfl, Run.outcome_bind_ok]
    constructor
    · rintro ⟨⟨found', t'⟩, hfound, h⟩
      obtain rfl : found' = found := Except.ok.inj h
      exact .inr ⟨rfl, t', hfound⟩
    · rintro (⟨h, -⟩ | ⟨-, t', hfound⟩)
      · cases h
      · exact ⟨(found, t'), hfound, rfl⟩

/-- What a search finds is a leaf of the tuple. -/
theorem exists_leaf_of_localize {c : Checking} {s : Sampling} {p : Predicate}
    {ds : List Descriptor} {values : List Value} {seed : Nat} {blame : Blame}
    (h : (localize c s p ds values seed).outcome = .ok (some blame)) :
    ∃ leaf ∈ Leaf.all ds values, blame = (leaf.argument, leaf.path) := by
  rcases localize_ok.mp h with ⟨-, h⟩ | ⟨-, t', h⟩
  · cases h
  · obtain ⟨before, leaf, after, hall, hblame, -⟩ := Leaf.found_of_firstToHold h
    exact ⟨leaf, List.mem_iff_append.mpr ⟨before, after, hall⟩, hblame⟩

/-- The drawn value of a position is the object `w` of origin `o`, and conforms
to its descriptor. -/
def HeldAt (ds : List Descriptor) (values : List Value) (w : Value) (o : Origin) (i : Nat) : Prop :=
  ∃ d v, ds[i]? = some d ∧ values[i]? = some v ∧ o.isDrawn ds i v w = true ∧ d.conforms v = true

/-- The holders of an object are the positions at which it is held. -/
theorem mem_holders {ds : List Descriptor} {values : List Value} {w : Value} {o : Origin}
    {i : Nat} : i ∈ holders ds values w o ↔ HeldAt ds values w o i := by
  unfold holders
  constructor
  · intro h
    obtain ⟨⟨⟨d, v⟩, n⟩, hmem, rfl⟩ := List.mem_map.mp h
    obtain ⟨hzip, hholds⟩ := List.mem_filter.mp hmem
    obtain ⟨hd, hv⟩ := List.getElem?_zip_eq_some.mp (List.mk_mem_zipIdx_iff_getElem?.mp hzip)
    obtain ⟨hdrawn, hconforms⟩ := Bool.and_eq_true_iff.mp hholds
    exact ⟨d, v, hd, hv, hdrawn, hconforms⟩
  · rintro ⟨d, v, hd, hv, hdrawn, hconforms⟩
    have hzip : ((d, v), i) ∈ (ds.zip values).zipIdx :=
      List.mk_mem_zipIdx_iff_getElem?.mpr (List.getElem?_zip_eq_some.mpr ⟨hd, hv⟩)
    exact List.mem_map.mpr ⟨((d, v), i), List.mem_filter.mpr ⟨hzip,
      Bool.and_eq_true_iff.mpr ⟨hdrawn, hconforms⟩⟩, rfl⟩

/-- What is blamed for an error is a holder of the object that was rejected,
at the place of the mismatch. -/
theorem exists_heldAt_of_attribution {c : Checking} {s : Sampling} {p : Predicate}
    {ds : List Descriptor} {values : List Value} {seed : Nat} {e : Error} {blame : Blame}
    (h : (attribution c s p ds values seed e).outcome = .ok (some blame)) :
    ∃ m function w o, e = .argument m function w o ∧ HeldAt ds values w o blame.1 ∧
      blame.2 = m.path := by
  unfold attribution at h
  split at h
  · next m function w o =>
    refine ⟨m, function, w, o, rfl, ?_⟩
    split at h
    · cases h
    · next i hi =>
      cases h
      exact ⟨mem_holders.mp (hi ▸ List.mem_singleton_self i), rfl⟩
    · obtain ⟨found, -, h⟩ := Run.outcome_bind_ok.mp h
      split at h
      · split at h
        · next hmem =>
          cases h
          exact ⟨mem_holders.mp (List.contains_iff_mem.mp hmem), rfl⟩
        · cases h
      · cases h
  · cases h

section

variable {c : Checking} {s : Sampling} {i : Invariant} {values : List Value} {seed : Nat}
variable (hi : i.Tellable) (hf : ∀ d ∈ i.descriptors, ¬ d.HasFunction)
variable (hvalues : s.replay i.descriptors seed = .ok values)

include hi hf hvalues in
/-- A search ends early only with a draw that is given up, or with the predicate. -/
theorem localize_error {fault : Fault}
    (h : (localize c s i.predicate i.descriptors values seed).outcome = .error fault) :
    i.predicate.EndsWith fault := by
  unfold localize at h
  split at h
  · rcases Run.outcome_bind_error.mp h with h | ⟨found, -, h⟩
    · exact Leaf.firstToHold_error (fun leaf hleaf =>
        Leaf.onlyGivesUp_redraw hi.wellFormed hf (Sampling.canonical_of_replay hf hvalues) hleaf) h
    · cases h
  · cases h

include hi in
/-- The part that it finds is at a place that can be written. -/
theorem localize_path {blame : Blame}
    (h : (localize c s i.predicate i.descriptors values seed).outcome = .ok (some blame)) :
    blame.2.all Segment.isNameOrInteger := by
  obtain ⟨leaf, hleaf, rfl⟩ := exists_leaf_of_localize h
  exact Path.isNameOrInteger_of_isPlain (Leaf.all_isPlain_of_mem_all hi.wellFormed hleaf)

include hi hf hvalues in
/-- An attribution ends early only if its search does. -/
theorem attribution_error {e : Error} {fault : Fault}
    (h : (attribution c s i.predicate i.descriptors values seed e).outcome = .error fault) :
    i.predicate.EndsWith fault := by
  unfold attribution at h
  split at h
  · split at h
    · cases h
    · cases h
    · rcases Run.outcome_bind_error.mp h with h | ⟨found, -, h⟩
      · exact localize_error hi hf hvalues h
      · split at h
        · cases h
        · cases h
  · cases h

/-- A drawn value that was rejected is blamed at the place of the mismatch. -/
theorem attribution_path {p : Predicate} {ds : List Descriptor} {e : Error} {blame : Blame}
    (h : (attribution c s p ds values seed e).outcome = .ok (some blame)) :
    ∃ m, e.mismatch? = some m ∧ blame.2 = m.path := by
  obtain ⟨m, function, w, o, rfl, -, hpath⟩ := exists_heldAt_of_attribution h
  exact ⟨m, rfl, hpath⟩

end

/-! ## One trial -/

namespace Runner

/-- The search for the part of a falsifying tuple that is to blame. -/
def blame (r : Runner) (i : Invariant) (values : List Value) (seed : Nat) :
    (cause : Option Error) → Run (Option Blame)
  | none => localize r.checking r.sampling i.predicate i.descriptors values seed
  | some e => attribution r.checking r.sampling i.predicate i.descriptors values seed e

/-- The counterexample that a falsifying tuple is. -/
def counterExample (i : Invariant) (values : List Value) (index seed : Nat)
    (cause : Option Error) (blame : Option Blame) : CounterExample Error :=
  ⟨values, i.descriptors, index, seed, blame.map fun b => b.1, (blame.map (·.2)).getD [], cause⟩

variable {r : Runner} {i : Invariant} {values : List Value} {index seed : Nat}

/-- The first leaf is blamed if its first redraw makes the predicate hold. -/
theorem blame_of_found {leaf : Leaf} {leaves : List Leaf} {t' : Twister}
    (hon : r.checking.localizeFailures = true) (hattempts : r.checking.localizationAttempts ≠ 0)
    (hleaves : Leaf.all i.descriptors values = leaf :: leaves)
    (hfound : leaf.Found r.sampling i.predicate values (redrawSource seed) t') :
    (r.blame i values seed none).outcome = .ok (some (leaf.argument, leaf.path)) := by
  obtain ⟨attempts, hattempts⟩ := Nat.exists_eq_succ_of_ne_zero hattempts
  refine localize_ok.mpr (.inr ⟨hon, t', ?_⟩)
  rw [hleaves, hattempts]
  exact Leaf.firstToHold_of_found hfound

/-- A trial that passes calls the predicate and does nothing else. -/
theorem trial_of_holds (hvalues : r.sampling.replay i.descriptors seed = .ok values)
    (hp : i.predicate.holds values = true) :
    r.trial i index seed = ⟨.ok none, (i.predicate values).effects⟩ := by
  unfold Predicate.holds at hp
  unfold trial
  rcases h : (i.predicate values).outcome with fault | v
  · simp only [h] at hp
    cases hp
  · simp only [h] at hp
    simp only [hvalues, h, hp, if_true]
    ext
    · rfl
    · simp [Run.after, pure, Run.pure]

/-- A trial that does not pass goes on to look for what to blame. -/
theorem trial_of_falsified {cause : Option Error}
    (hvalues : r.sampling.replay i.descriptors seed = .ok values)
    (hcause : i.predicate.Falsified values cause) :
    r.trial i index seed = Run.after (i.predicate values).effects
      (r.blame i values seed cause >>= fun blame =>
        pure (some (counterExample i values index seed cause blame))) := by
  unfold trial
  cases hcause with
  | false h hv =>
    simp only [hvalues, h, hv]
    rfl
  | raised h he =>
    simp only [hvalues, h, he, if_true]
    rfl

/-- Whatever the cause, only a draw or the predicate can end that. -/
theorem blame_error (hi : i.Tellable) (hf : ∀ d ∈ i.descriptors, ¬ d.HasFunction)
    (hvalues : r.sampling.replay i.descriptors seed = .ok values) {cause : Option Error}
    {fault : Fault} (h : (r.blame i values seed cause).outcome = .error fault) :
    i.predicate.EndsWith fault := by
  cases cause with
  | none => exact localize_error hi hf hvalues h
  | some e => exact attribution_error hi hf hvalues h

/-- The place that is blamed can be written. -/
theorem blame_path (hi : i.Tellable) {cause : Option Error}
    (hcause : i.predicate.Falsified values cause) {blame : Blame}
    (h : (r.blame i values seed cause).outcome = .ok (some blame)) :
    blame.2.all Segment.isNameOrInteger := by
  cases cause with
  | none => exact localize_path hi h
  | some e =>
    obtain ⟨m, hm, hpath⟩ := attribution_path h
    rw [hpath]
    exact hi.places.mismatch_path hcause hm

/-- How a trial ends. -/
inductive Tried (r : Runner) (i : Invariant) (index seed : Nat) :
    Run (Option (CounterExample Error)) → Prop
  | fault {told fault} (h : told.outcome = .error fault) : Tried r i index seed told
  | held {values : List Value} (hvalues : r.sampling.replay i.descriptors seed = .ok values)
    (hp : i.predicate.holds values = true) :
    Tried r i index seed ⟨.ok none, (i.predicate values).effects⟩
  | falsified {values : List Value} {cause blame}
    (hvalues : r.sampling.replay i.descriptors seed = .ok values)
    (hcause : i.predicate.Falsified values cause)
    (hblame : (r.blame i values seed cause).outcome = .ok blame) :
    Tried r i index seed ⟨.ok (some (counterExample i values index seed cause blame)),
      (i.predicate values).effects ++ (r.blame i values seed cause).effects⟩

/-- A trial ends with what is no failure of the predicate. -/
theorem trial_of_fault (hvalues : r.sampling.replay i.descriptors seed = .ok values)
    {fault : Fault} (h : (i.predicate values).outcome = .error fault)
    (hfault : ¬ fault.isOrdinary) :
    (r.trial i index seed).outcome = .error fault := by
  unfold trial
  cases fault with
  | unfinished =>
    simp only [hvalues, h]
    rfl
  | raised e ticket =>
    have he : e.isOrdinary = false := Bool.eq_false_iff.mpr hfault
    simp only [hvalues, h, he]
    rfl

/-- Every trial ends in one of these ways. -/
theorem tried_trial (r : Runner) (i : Invariant) (index seed : Nat) :
    r.Tried i index seed (r.trial i index seed) := by
  rcases hvalues : r.sampling.replay i.descriptors seed with fault | values
  · have htrial : (r.trial i index seed).outcome = .error fault := by
      unfold trial
      rw [hvalues]
      rfl
    exact .fault htrial
  · rcases i.predicate.holds_or_falsified values with hp | ⟨cause, hcause⟩ | ⟨fault, h, hfault⟩
    · rw [trial_of_holds hvalues hp]
      exact .held hvalues hp
    · rw [trial_of_falsified hvalues hcause]
      rcases hblame : (r.blame i values seed cause).outcome with fault | blame
      · rw [Run.bind_of_error hblame]
        exact .fault rfl
      · rw [Run.bind_of_ok hblame]
        have htried : r.Tried i index seed _ := .falsified hvalues hcause hblame
        rwa [← List.append_nil (r.blame i values seed cause).effects] at htried
    · exact .fault (trial_of_fault hvalues h hfault)

/-- A trial has a fault only if a draw is given up or the predicate ends it. -/
theorem trial_error (hi : i.Tellable) (hf : ∀ d ∈ i.descriptors, ¬ d.HasFunction) {fault : Fault}
    (h : (r.trial i index seed).outcome = .error fault) : i.predicate.EndsWith fault := by
  rcases hvalues : r.sampling.replay i.descriptors seed with fault' | values
  · unfold trial at h
    rw [hvalues] at h
    obtain rfl : fault' = fault := Except.error.inj h
    exact .inl (Sampling.unfinished_of_replay hf hvalues)
  · rcases i.predicate.holds_or_falsified values with hp | ⟨cause, hcause⟩ | ⟨other, hp, hother⟩
    · rw [trial_of_holds hvalues hp] at h
      cases h
    · rw [trial_of_falsified hvalues hcause] at h
      rcases Run.outcome_bind_error.mp h with h | ⟨blame, -, h⟩
      · exact blame_error hi hf hvalues h
      · cases h
    · rw [trial_of_fault hvalues hp hother] at h
      obtain rfl : other = fault := Except.error.inj h
      exact .inr ⟨values, hp, hother⟩

/-- The tuple of a trial seed is drawn to its end, and if it falsifies the
predicate, the search for the part to blame comes to its end. -/
def Settled (r : Runner) (i : Invariant) (seed : Nat) : Prop :=
  ∃ values, r.sampling.replay i.descriptors seed = .ok values ∧
    ∀ cause, i.predicate.Falsified values cause →
      ∃ blame, (r.blame i values seed cause).outcome = .ok blame

/-- Where the source stands does not matter to that. -/
theorem Settled.of_source (h : r.Settled i seed) (source : Twister) :
    Settled { r with source } i seed := h

/-- A trial that is settled comes to its end. -/
theorem exists_trial_of_settled (hi : i.Ordinary) (h : r.Settled i seed) :
    ∃ found, (r.trial i index seed).outcome = .ok found := by
  obtain ⟨values, hvalues, hblame⟩ := h
  rcases i.predicate.holds_or_falsified values with hp | ⟨cause, hcause⟩ | ⟨fault, hp, hfault⟩
  · exact ⟨none, by rw [trial_of_holds hvalues hp]⟩
  · obtain ⟨blame, hblame⟩ := hblame cause hcause
    rw [trial_of_falsified hvalues hcause, Run.bind_of_ok hblame]
    exact ⟨_, rfl⟩
  · have hfailure := hi.predicate values fault hp
    cases fault with
    | unfinished => exact hfailure.elim
    | raised e ticket => exact absurd hfailure.1 hfault

end Runner

end Conformance
