import Conformance.Proofs.Invariant.Attribution

/-!
# Conformance.Proofs.Invariant.Calls

How often a check calls its predicate, and on what.

What a check does is put together from what the predicate does on certain
tuples.  Which tuples these are depends on what the predicate yields only:
`Predicate.Asks` says of a computation with the predicate as its parameter
that it comes to the same and calls the predicate on the same tuples for all
predicates that are alike.  It has a rule for each form of computation, so
that the calls are read off the definitions.

The calls are those of the trials, then those of redraws.  Of redraws there
are as many as the settings allow for each leaf, or fewer and the predicate
holds of one (`Predicate.Spends`).
-/

namespace Conformance

/-! ## Calls -/

namespace Predicate

variable {α β : Type} {p q : Predicate}

/-- Two predicates that yield the same.  What they do on the way may differ. -/
def Alike (p q : Predicate) : Prop := ∀ values, (q values).outcome = (p values).outcome

/-- Predicates that are alike hold of the same tuples. -/
theorem Alike.holds (h : p.Alike q) (values : List Value) : q.holds values = p.holds values := by
  unfold Predicate.holds
  rw [h values]

/-- Predicates that are alike accept the same tuples, each with its own effects. -/
theorem Alike.accepts (h : p.Alike q) (values : List Value) :
    q.accepts values = ⟨(p.accepts values).outcome, (q values).effects⟩ := by
  unfold Predicate.accepts
  simp only [h values]
  rcases (p values).outcome with fault | v
  · dsimp only
    split
    · rfl
    · rfl
  · rfl

/-- Predicates that are alike are falsified by the same tuples, in the same way. -/
theorem Alike.falsified (h : p.Alike q) {values : List Value} {cause : Option Error}
    (hcause : p.Falsified values cause) : q.Falsified values cause := by
  cases hcause with
  | false hv hfalse => exact .false ((h values).trans hv) hfalse
  | raised he hordinary => exact .raised ((h values).trans he) hordinary

@[simp] theorem calls_nil : p.calls [] = [] := rfl

@[simp] theorem calls_cons (values : List Value) (tuples : List (List Value)) :
    p.calls (values :: tuples) = (p values).effects ++ p.calls tuples := List.flatMap_cons

@[simp] theorem calls_append (tuples more : List (List Value)) :
    p.calls (tuples ++ more) = p.calls tuples ++ p.calls more := List.flatMap_append

/-- A computation calls its predicate on these tuples and does nothing else,
whichever of those alike it is. -/
def Asks (p : Predicate) (run : Predicate → Run α) (tuples : List (List Value)) : Prop :=
  ∀ q, p.Alike q → run q = ⟨(run p).outcome, q.calls tuples⟩

/-- Computations that are equal for like predicates ask the same. -/
theorem Asks.congr {run run' : Predicate → Run α} {tuples : List (List Value)}
    (h : ∀ q, p.Alike q → run q = run' q) (h' : p.Asks run' tuples) : p.Asks run tuples := by
  intro q hq
  rw [h q hq, h p (fun _ => rfl)]
  exact h' q hq

/-- What comes of asking does not depend on the effects of the predicate. -/
theorem Asks.outcome {run : Predicate → Run α} {tuples : List (List Value)}
    (h : p.Asks run tuples) (hq : p.Alike q) : (run q).outcome = (run p).outcome := by
  rw [h q hq]

/-- A computation without the predicate. -/
theorem asks_pure (a : α) : p.Asks (fun _ => pure a) [] := fun _ _ => rfl

/-- A call, and what follows it. -/
theorem Asks.after {run : Predicate → Run α} {values : List Value} {tuples : List (List Value)}
    (h : p.Asks run tuples) :
    p.Asks (fun q => Run.after (q values).effects (run q)) (values :: tuples) := by
  intro q hq
  dsimp only
  rw [h q hq, calls_cons]
  rfl

/-- A call for the word of the predicate. -/
theorem asks_accepts (values : List Value) : p.Asks (fun q => q.accepts values) [values] := by
  intro q hq
  dsimp only
  rw [hq.accepts, calls_cons, calls_nil, List.append_nil]

/-- One computation after another. -/
theorem Asks.bind {run : Predicate → Run α} {next : Predicate → α → Run β} {a : α}
    {tuples more : List (List Value)} (h : p.Asks run tuples) (ha : (run p).outcome = .ok a)
    (hnext : p.Asks (fun q => next q a) more) :
    p.Asks (fun q => run q >>= next q) (tuples ++ more) := by
  intro q hq
  have hrun : (run q).outcome = .ok a := by rw [h q hq, ha]
  have hmore : next q a = ⟨(next p a).outcome, q.calls more⟩ := hnext q hq
  dsimp only
  rw [Run.bind_of_ok hrun, Run.bind_of_ok ha, hmore, h q hq, calls_append]
  rfl

/-- A computation whose result is put to use. -/
theorem Asks.map {run : Predicate → Run α} {a : α} {tuples : List (List Value)}
    (h : p.Asks run tuples) (ha : (run p).outcome = .ok a) (f : α → β) :
    p.Asks (fun q => run q >>= fun a => pure (f a)) tuples := by
  rw [← List.append_nil tuples]
  exact h.bind ha (asks_pure (f a))

/-- So many calls at most, and exactly so many if the predicate holds of none. -/
def Spends (p : Predicate) (most : Nat) (tuples : List (List Value)) : Prop :=
  tuples.length ≤ most ∧ (tuples.length = most ∨ ∃ tuple ∈ tuples, p.holds tuple = true)

/-- Two stretches of calls spend what both allow. -/
theorem Spends.append {most more : Nat} {tuples others : List (List Value)}
    (h : p.Spends most tuples) (h' : p.Spends more others) :
    p.Spends (most + more) (tuples ++ others) := by
  obtain ⟨hmost, hall⟩ := h
  obtain ⟨hmore, hothers⟩ := h'
  rw [Spends, List.length_append]
  refine ⟨by omega, ?_⟩
  rcases hall with hall | ⟨tuple, hmem, hholds⟩
  · rcases hothers with hothers | ⟨tuple, hmem, hholds⟩
    · exact .inl (by omega)
    · exact .inr ⟨tuple, List.mem_append_right _ hmem, hholds⟩
  · exact .inr ⟨tuple, List.mem_append_left _ hmem, hholds⟩

/-- Calls that end with a tuple of which the predicate holds need not spend all. -/
theorem Spends.of_holds {most : Nat} {tuples : List (List Value)} (h : tuples.length ≤ most)
    {tuple : List Value} (hmem : tuple ∈ tuples) (hholds : p.holds tuple = true) :
    p.Spends most tuples :=
  ⟨h, .inr ⟨tuple, hmem, hholds⟩⟩

/-- If it holds of none, all that is allowed is spent. -/
theorem Spends.length_eq {most : Nat} {tuples : List (List Value)} (h : p.Spends most tuples)
    (hnone : ∀ tuple ∈ tuples, p.holds tuple = false) : tuples.length = most := by
  obtain ⟨-, hall | ⟨tuple, hmem, hholds⟩⟩ := h
  · exact hall
  · rw [hnone tuple hmem] at hholds
    cases hholds

/-- A predicate that tells what it is called on, and is alike. -/
def telling (p : Predicate) : Predicate := fun values =>
  ⟨(p values).outcome, [.logged ⟨.debug, "", [("", .tuple values)]⟩]⟩

/-- A predicate that tells its tuples can be told from its calls. -/
theorem calls_telling_injective : Function.Injective p.telling.calls := by
  intro tuples others h
  have hmap (tuples : List (List Value)) : p.telling.calls tuples =
      tuples.map fun values => .logged ⟨.debug, "", [("", .tuple values)]⟩ :=
    List.map_eq_flatMap.symm
  rw [hmap, hmap] at h
  refine List.map_injective_iff.mpr (fun a b hab => ?_) h
  simpa using hab

end Predicate

/-! ## Calls of the search -/

namespace Leaf

variable {s : Sampling} {p : Predicate} {values : List Value} {leaf : Leaf} {t t' : Twister}

/-- One round: a redraw, the word of the predicate on it, and the rounds that are left. -/
theorem redrawHolds_succ_of_redraw {attempts : Nat} {v : Value} {t₁ : Twister}
    (hv : (leaf.descriptor.generateAt s leaf.path leaf.value).runFrom t = (.ok v, t₁)) :
    leaf.redrawHolds s p values (attempts + 1) t =
      p.accepts (values.set leaf.argument v) >>= fun accepted =>
        if accepted then pure (true, t₁) else leaf.redrawHolds s p values attempts t₁ := by
  have hdraw : Search.draw (leaf.descriptor.generateAt s leaf.path leaf.value) t =
      pure (v, t₁) := by
    unfold Search.draw
    rw [hv]
  rw [redrawHolds, Search.bind_apply, hdraw, pure_bind, Search.bind_apply, Search.lift_apply,
    bind_assoc]
  refine congrArg (_ >>= ·) (funext fun accepted => ?_)
  rw [pure_bind]
  cases accepted with
  | true => rfl
  | false => rfl

/-- The redraws of a leaf are made until the predicate holds of one. -/
theorem asks_redrawHolds {attempts : Nat} {b : Bool}
    (h : (leaf.redrawHolds s p values attempts t).outcome = .ok (b, t')) :
    ∃ tuples, p.Asks (fun q => leaf.redrawHolds s q values attempts t) tuples ∧
      p.Spends attempts tuples ∧ (b = true → ∃ tuple ∈ tuples, p.holds tuple = true) := by
  induction attempts generalizing t with
  | zero =>
    obtain ⟨rfl, rfl⟩ : false = b ∧ t = t' := by simpa [redrawHolds] using h
    exact ⟨[], p.asks_pure (false, t), ⟨Nat.le_refl 0, .inl rfl⟩,
      fun h => absurd h Bool.false_ne_true⟩
  | succ attempts ih =>
    obtain ⟨v, t₁, hv, h⟩ := Search.outcome_bind_ok.mp h
    rw [Search.outcome_draw_ok] at hv
    obtain ⟨accepted, t₂, haccepted, h⟩ := Search.outcome_bind_ok.mp h
    obtain ⟨haccepts, rfl⟩ := Search.outcome_lift_ok.mp haccepted
    have hholds := Predicate.eq_holds_of_accepts haccepts
    simp only [redrawHolds_succ_of_redraw hv]
    have hcall := p.asks_accepts (values.set leaf.argument v)
    have hmem {more : List (List Value)} : values.set leaf.argument v ∈
        [values.set leaf.argument v] ++ more := List.mem_cons_self
    cases accepted with
    | true =>
      exact ⟨_, hcall.bind haccepts (p.asks_pure (true, t₁)),
        .of_holds (Nat.le_add_left 1 attempts) hmem hholds.symm, fun _ => ⟨_, hmem, hholds.symm⟩⟩
    | false =>
      obtain ⟨tuples, hasks, hspends, hhit⟩ := ih h
      refine ⟨_, hcall.bind haccepts hasks, ?_, fun hb => ?_⟩
      · rw [Nat.add_comm]
        exact Predicate.Spends.append ⟨Nat.le_refl 1, .inl rfl⟩ hspends
      · obtain ⟨tuple, htuple, hheld⟩ := hhit hb
        exact ⟨tuple, List.mem_append_right _ htuple, hheld⟩

/-- One leaf, and the leaves that are left. -/
theorem firstToHold_cons_apply {attempts : Nat} {leaves : List Leaf} :
    firstToHold s attempts p values (leaf :: leaves) t =
      leaf.redrawHolds s p values attempts t >>= fun held =>
        if held.1 then pure (some (leaf.argument, leaf.path), held.2)
        else firstToHold s attempts p values leaves held.2 := by
  rw [firstToHold, Search.bind_apply]
  refine congrArg (_ >>= ·) (funext fun held => ?_)
  split
  · rfl
  · rfl

/-- The leaves are gone through until the predicate holds of a redraw. -/
theorem asks_firstToHold {attempts : Nat} {leaves : List Leaf} {found : Option Blame}
    (h : (firstToHold s attempts p values leaves t).outcome = .ok (found, t')) :
    ∃ tuples, p.Asks (fun q => firstToHold s attempts q values leaves t) tuples ∧
      p.Spends (attempts * leaves.length) tuples := by
  induction leaves generalizing t with
  | nil => exact ⟨[], p.asks_pure (none, t), Nat.zero_le _, .inl rfl⟩
  | cons leaf leaves ih =>
    simp only [firstToHold_cons_apply]
    rw [List.length_cons, Nat.mul_succ, Nat.add_comm]
    rcases firstToHold_cons_ok h with ⟨hheld, -⟩ | ⟨t₁, hheld, hrest⟩
    · obtain ⟨tuples, hasks, ⟨hlength, -⟩, hhit⟩ := asks_redrawHolds hheld
      obtain ⟨tuple, hmem, hholds⟩ := hhit rfl
      refine ⟨_, hasks.bind hheld (p.asks_pure _), ?_⟩
      rw [List.append_nil]
      exact .of_holds (Nat.le_add_right_of_le hlength) hmem hholds
    · obtain ⟨tuples, hasks, hspends, -⟩ := asks_redrawHolds hheld
      obtain ⟨more, hmore, hrest⟩ := ih hrest
      exact ⟨_, hasks.bind hheld hmore, hspends.append hrest⟩

/-- The leaves of a tuple are those of its descriptors. -/
theorem length_all {ds : List Descriptor} (h : values.length = ds.length) :
    (Leaf.all ds values).length = (ds.flatMap Descriptor.leafPaths).length := by
  have hds : ((ds.zip values).zipIdx.map (·.1)).map (·.1) = ds := by
    rw [List.zipIdx_map_fst, List.map_fst_zip (Nat.le_of_eq h.symm)]
  have hall : (ds.flatMap Descriptor.leafPaths) =
      (ds.zip values).zipIdx.flatMap fun a => a.1.1.leafPaths := by
    conv_lhs => rw [← hds]
    simp only [List.flatMap_map]
  unfold Leaf.all
  rw [hall]
  simp only [List.length_flatMap, List.length_map]

end Leaf

/-- How often a leaf is redrawn at most, over all leaves of descriptors. -/
def Checking.redraws (c : Checking) (ds : List Descriptor) : Nat :=
  if c.localizeFailures then
    c.localizationAttempts * (ds.flatMap Descriptor.leafPaths).length
  else 0

/-- Without a search no redraws are allowed. -/
theorem Checking.redraws_off {c : Checking} (h : c.localizeFailures = false)
    (ds : List Descriptor) : c.redraws ds = 0 := by
  rw [redraws, h, if_neg Bool.false_ne_true]

/-- With a search, so many attempts are allowed at each leaf. -/
theorem Checking.redraws_on {c : Checking} (h : c.localizeFailures = true)
    (ds : List Descriptor) :
    c.redraws ds = c.localizationAttempts * (ds.flatMap Descriptor.leafPaths).length := by
  rw [redraws, h, if_pos rfl]

/-- No more than so many attempts at each leaf are allowed. -/
theorem Checking.redraws_le (c : Checking) (ds : List Descriptor) :
    c.redraws ds ≤ c.localizationAttempts * (ds.flatMap Descriptor.leafPaths).length := by
  cases h : c.localizeFailures with
  | false =>
    rw [redraws_off h]
    exact Nat.zero_le _
  | true => exact Nat.le_of_eq (redraws_on h ds)

/-- Several of the drawn values are the object that was rejected, and conform. -/
def Error.Tied (ds : List Descriptor) (values : List Value) (e : Error) : Prop :=
  ∃ m function w o i j, e = .argument m function w o ∧ i ≠ j ∧
    HeldAt ds values w o i ∧ HeldAt ds values w o j

/-- A counterexample for which the part to blame is looked for by redrawing:
the predicate was merely false, or what was rejected could be several of the
drawn values. -/
def CounterExample.Searched (c : CounterExample Error) : Prop :=
  ∀ e, c.cause = some e → e.Tied c.descriptors c.values

section

variable {c : Checking} {s : Sampling} {p : Predicate} {ds : List Descriptor}
variable {values : List Value} {seed : Nat} {found : Option Blame}

/-- A search asks about the tuples of its redraws, and about no more than allowed. -/
theorem asks_localize (hvalues : values.length = ds.length)
    (h : (localize c s p ds values seed).outcome = .ok found) :
    ∃ tuples, p.Asks (fun q => localize c s q ds values seed) tuples ∧
      p.Spends (c.redraws ds) tuples := by
  unfold localize Checking.redraws
  rcases localize_ok.mp h with ⟨hoff, -⟩ | ⟨hon, t', hfound⟩
  · simp only [hoff]
    exact ⟨[], p.asks_pure none, Nat.le_refl 0, .inl rfl⟩
  · simp only [hon]
    obtain ⟨tuples, hasks, hspends⟩ := Leaf.asks_firstToHold hfound
    rw [Leaf.length_all hvalues] at hspends
    exact ⟨tuples, hasks.map hfound (·.1), hspends⟩

/-- Without a tie an error points where it points whatever the predicate is. -/
theorem attribution_of_not_tied {e : Error} (h : ¬ e.Tied ds values) :
    ∃ found, ∀ q, attribution c s q ds values seed e = pure found := by
  unfold attribution
  split
  · next m function w o =>
    split
    · exact ⟨none, fun _ => rfl⟩
    · next i _ => exact ⟨some (i, m.path), fun _ => rfl⟩
    · next hnone hone =>
      exfalso
      rcases hholders : holders ds values w o with _ | ⟨i, _ | ⟨j, rest⟩⟩
      · exact hnone hholders
      · exact hone i hholders
      · have hnodup : (i :: j :: rest).Nodup := hholders ▸ nodup_holders
        have hij : i ≠ j := fun hij => (List.nodup_cons.mp hnodup).1 (hij ▸ List.mem_cons_self)
        have hheld {k : Nat} (hk : k ∈ i :: j :: rest) : HeldAt ds values w o k :=
          mem_holders.mp (hholders ▸ hk)
        exact h ⟨m, function, w, o, i, j, rfl, hij, hheld List.mem_cons_self,
          hheld (List.mem_cons_of_mem i List.mem_cons_self)⟩
  · exact ⟨none, fun _ => rfl⟩

/-- The attribution of an error that is tied asks what its search asks. -/
theorem asks_attribution (hvalues : values.length = ds.length) {e : Error}
    (h : (attribution c s p ds values seed e).outcome = .ok found) (htied : e.Tied ds values) :
    ∃ tuples, p.Asks (fun q => attribution c s q ds values seed e) tuples ∧
      p.Spends (c.redraws ds) tuples := by
  obtain ⟨m, function, w, o, i, j, rfl, hne, hi, hj⟩ := htied
  rw [attribution_of_several hne hi hj] at h
  obtain ⟨searched, hsearched, -⟩ := Run.outcome_bind_ok.mp h
  simp only [attribution_of_several hne hi hj]
  obtain ⟨tuples, hasks, hspends⟩ := asks_localize hvalues hsearched
  exact ⟨tuples, hasks.map hsearched _, hspends⟩

end

/-! ## Calls of a check -/

namespace Runner

variable {r : Runner} {i : Invariant} {values : List Value} {index seed : Nat}

/-- The tuples that are redrawn for a counterexample. -/
structure Redrawn (r : Runner) (p : Predicate) (c : CounterExample Error)
    (redraws : List (List Value)) : Prop where
  searched (h : c.Searched) : p.Spends (r.checking.redraws c.descriptors) redraws
  spared (h : ¬ c.Searched) : redraws = []

/-- The redraws of a counterexample are no more than allowed. -/
theorem Redrawn.length_le {p : Predicate} {c : CounterExample Error}
    {redraws : List (List Value)} (h : r.Redrawn p c redraws) :
    redraws.length ≤ r.checking.redraws c.descriptors := by
  by_cases hsearched : c.Searched
  · exact (h.searched hsearched).1
  · rw [h.spared hsearched]
    exact Nat.zero_le _

/-- What to blame is asked of redraws alone. -/
theorem asks_blame (index : Nat) (hvalues : values.length = i.descriptors.length)
    {cause : Option Error} {blame : Option Blame}
    (h : (r.blame i values seed cause).outcome = .ok blame) :
    ∃ redraws, i.predicate.Asks
        (fun q => r.blame { i with predicate := q } values seed cause) redraws ∧
      r.Redrawn i.predicate (counterExample i values index seed cause blame) redraws := by
  cases cause with
  | none =>
    obtain ⟨redraws, hasks, hspends⟩ := asks_localize hvalues h
    exact ⟨redraws, hasks, fun _ => hspends, fun hnot => (hnot nofun).elim⟩
  | some e =>
    by_cases htied : e.Tied i.descriptors values
    · obtain ⟨redraws, hasks, hspends⟩ := asks_attribution hvalues h htied
      refine ⟨redraws, hasks, fun _ => hspends, fun hnot => (hnot ?_).elim⟩
      rintro _ ⟨⟩
      exact htied
    · obtain ⟨found, hfound⟩ := attribution_of_not_tied htied
      exact ⟨[], .congr (fun q _ => hfound q) (Predicate.asks_pure found),
        fun hsearched => (htied (hsearched e rfl)).elim, fun _ => rfl⟩

/-- The tuples of trials, `left` of them at most and counted from `index`, and
those that were redrawn, for what the trials come to. -/
inductive Spent (r : Runner) (i : Invariant) (left index : Nat)
    (tuples redraws : List (List Value)) : Option (CounterExample Error) → Prop
  | held (hlength : tuples.length = left) (hredraws : redraws = []) :
    Spent r i left index tuples redraws none
  | violated {c : CounterExample Error}
    (htrial : c.trial + 1 = ((index + tuples.length : Nat) : Int))
    (hc : c.descriptors = i.descriptors) (hredraws : r.Redrawn i.predicate c redraws) :
    Spent r i left index tuples redraws (some c)

/-- A trial asks about its tuple and then about the redraws. -/
theorem asks_trial {found : Option (CounterExample Error)}
    (hf : ∀ d ∈ i.descriptors, ¬ d.HasFunction) (h : (r.trial i index seed).outcome = .ok found) :
    ∃ values redraws, i.predicate.Asks
        (fun q => r.trial { i with predicate := q } index seed) (values :: redraws) ∧
      r.Spent i 1 index [values] redraws found := by
  have htried := r.tried_trial i index seed
  generalize r.trial i index seed = told at htried h
  cases htried with
  | fault hfault => cases hfault.symm.trans h
  | @held values hvalues hp =>
    cases h
    refine ⟨values, [], .congr (fun q hq => ?_) (Predicate.asks_pure none).after, .held rfl rfl⟩
    rw [trial_of_holds (i := { i with predicate := q }) hvalues ((hq.holds values).trans hp)]
    exact Run.ext rfl (List.append_nil _).symm
  | @falsified values cause blame hvalues hcause hblame =>
    cases h
    have hlength : values.length = i.descriptors.length :=
      (Sampling.canonical_of_replay hf hvalues).length_eq.symm
    obtain ⟨redraws, hasks, hredrawn⟩ := asks_blame index hlength hblame
    have hfound := hasks.map hblame fun blame =>
      some (counterExample i values index seed cause blame)
    exact ⟨values, redraws, .congr (fun q hq =>
      trial_of_falsified (i := { i with predicate := q }) hvalues (hq.falsified hcause))
      hfound.after, .violated rfl rfl hredrawn⟩

/-- A trial that passes, and the trials that are left. -/
theorem trials_succ_of_held {left : Nat} {source : Twister}
    (h : (r.trial i index (source.trialSeed 0)).outcome = .ok none) :
    (r.trials i (left + 1) index source).1 = r.trial i index (source.trialSeed 0) >>= fun _ =>
      (r.trials i left (index + 1) (source.afterSeeds 1)).1 := by
  rw [trials_succ, Run.bind_of_ok h]
  simp only [h]

/-- A trial that does not pass is the last one. -/
theorem trials_succ_of_violated {left : Nat} {source : Twister} {c : CounterExample Error}
    (h : (r.trial i index (source.trialSeed 0)).outcome = .ok (some c)) :
    (r.trials i (left + 1) index source).1 = r.trial i index (source.trialSeed 0) := by
  rw [trials_succ]
  simp only [h]

/-- Trials ask about their tuples in order, and about redraws only after the last. -/
theorem asks_trials {left : Nat} {source : Twister} {found : Option (CounterExample Error)}
    (hf : ∀ d ∈ i.descriptors, ¬ d.HasFunction)
    (h : (r.trials i left index source).1.outcome = .ok found) :
    ∃ tuples redraws, i.predicate.Asks
        (fun q => (r.trials { i with predicate := q } left index source).1) (tuples ++ redraws) ∧
      r.Spent i left index tuples redraws found := by
  induction left generalizing index source with
  | zero =>
    cases h
    exact ⟨[], [], Predicate.asks_pure none, .held rfl rfl⟩
  | succ left ih =>
    rcases htrial : (r.trial i index (source.trialSeed 0)).outcome with fault | _ | c
    · rw [trials_succ, htrial] at h
      cases htrial.symm.trans h
    · obtain ⟨values, _, hasks, ⟨-, rfl⟩⟩ := asks_trial hf htrial
      rw [trials_succ_of_held htrial, Run.bind_of_ok htrial, Run.outcome_after] at h
      obtain ⟨tuples, redraws, hrest, hspent⟩ := ih h
      refine ⟨values :: tuples, redraws, .congr (fun q hq => trials_succ_of_held ?_)
        (hasks.bind htrial hrest), ?_⟩
      · exact (hasks.outcome hq).trans htrial
      · cases hspent with
        | held hlength hredraws => exact .held (by rw [List.length_cons, hlength]) hredraws
        | violated hlast hc hredraws =>
          refine .violated ?_ hc hredraws
          rw [hlast, List.length_cons]
          omega
    · obtain ⟨values, redraws, hasks, hspent⟩ := asks_trial hf htrial
      rw [trials_succ_of_violated htrial, htrial] at h
      obtain rfl : some c = found := Except.ok.inj h
      refine ⟨[values], redraws, .congr (fun q hq => trials_succ_of_violated (c := c) ?_) hasks, ?_⟩
      · exact (hasks.outcome hq).trans htrial
      · cases hspent with
        | violated htrial hc hredraws => exact .violated htrial hc hredraws

/-- A check calls its predicate on these tuples in turn and then logs an
event, whatever the predicate does on the way. -/
def CalledOn (r : Runner) (i : Invariant) (tuples : List (List Value)) : Prop :=
  ∃ event, ∀ q, i.predicate.Alike q → (check { i with predicate := q } r).1 =
    ⟨(check i r).1.outcome, q.calls tuples ++ [.logged event]⟩

/-- The calls of a check are those of its trials. -/
theorem calledOn_of_asks {tuples : List (List Value)} {found : Option (CounterExample Error)}
    {report : Report} (hobstacle : obstacle? i.descriptors = none)
    (hasks : i.predicate.Asks
      (fun q => (r.trials { i with predicate := q } i.budget 1 r.source).1) tuples)
    (hfound : (r.trials i i.budget 1 r.source).1.outcome = .ok found)
    (hreport : ∃ event, r.report i found = ⟨.ok report, [.logged event]⟩) :
    r.CalledOn i tuples ∧ (check i r).1.outcome = .ok report := by
  obtain ⟨event, hevent⟩ := hreport
  have hcheck (q : Predicate) (hq : i.predicate.Alike q) :
      (check { i with predicate := q } r).1 = ⟨.ok report, q.calls tuples ++ [.logged event]⟩ := by
    have hsame : r.report { i with predicate := q } found = r.report i found := by
      cases found with
      | none => rfl
      | some c => rfl
    rw [check_of_generable (i := { i with predicate := q }) hobstacle]
    have heffects := congrArg Run.effects (hasks q hq)
    dsimp only at heffects ⊢
    rw [Run.bind_of_ok ((hasks.outcome hq).trans hfound), hsame, hevent, heffects]
    rfl
  have hself := congrArg Run.outcome (hcheck i.predicate fun _ => rfl)
  exact ⟨⟨event, fun q hq => (hcheck q hq).trans (congrArg (Run.mk · _) hself.symm)⟩, hself⟩

/-- The calls of a check are those of the trials, then those of the redraws. -/
theorem calledOn_check {report : Report} (h : (check i r).1.outcome = .ok report) :
    ∃ tuples redraws, r.CalledOn i (tuples ++ redraws) ∧
      report.trialsRun = (tuples.length : Nat) ∧
      (report.counterexample = none → redraws = []) ∧
      ∀ c, report.counterexample = some c → c.descriptors = i.descriptors ∧
        r.Redrawn i.predicate c redraws := by
  rcases hobstacle : obstacle? i.descriptors with _ | e
  · have hf := obstacle?_eq_none_iff.mp hobstacle
    have hended := h
    rw [check_of_generable hobstacle] at hended
    obtain ⟨found, hfound, hended⟩ := Run.outcome_bind_ok.mp hended
    obtain ⟨tuples, redraws, hasks, hspent⟩ := asks_trials hf hfound
    refine ⟨tuples, redraws, ?_⟩
    cases hspent with
    | held hlength hredraws =>
      obtain ⟨hcalled, ho⟩ := calledOn_of_asks hobstacle hasks hfound (r.report_none i)
      obtain rfl := Except.ok.inj (h.symm.trans ho)
      exact ⟨hcalled, congrArg Nat.cast hlength.symm, fun _ => hredraws, nofun⟩
    | @violated c htrial hc hredraws =>
      rcases hplace : c.location with e | place
      · cases hended.symm.trans (r.report_error i hplace)
      · obtain ⟨hcalled, ho⟩ :=
          calledOn_of_asks hobstacle hasks hfound (r.report_some i hplace)
        obtain rfl := Except.ok.inj (h.symm.trans ho)
        refine ⟨hcalled, ?_, nofun, ?_⟩
        · show c.trial = _
          omega
        · rintro _ ⟨⟩
          exact ⟨hc, hredraws⟩
  · obtain ⟨event, hevent⟩ : ∃ event, ∀ q, (check { i with predicate := q } r).1 =
        ⟨.ok ⟨i.label, .aborted, i.budget, 0, r.seed, none, some e⟩, [.logged event]⟩ := by
      refine ⟨⟨.warning, "invariant_aborted", [("system", .str "conformos.engine.invariants"),
        ("seed", .int r.seed), ("invariant", .str i.label), ("error", .str e.text)]⟩, fun q => ?_⟩
      rw [check_of_obstacle (i := { i with predicate := q }) hobstacle]
    have hself := congrArg Run.outcome (hevent i.predicate)
    obtain rfl := Except.ok.inj (h.symm.trans hself)
    exact ⟨[], [], ⟨event, fun q _ => (hevent q).trans (congrArg (Run.mk · _) hself.symm)⟩,
      rfl, fun _ => rfl, nofun⟩

/-- There is one list of tuples that a check calls its predicate on. -/
theorem CalledOn.unique {tuples others : List (List Value)} (h : r.CalledOn i tuples)
    (h' : r.CalledOn i others) : tuples = others := by
  obtain ⟨event, h⟩ := h
  obtain ⟨event', h'⟩ := h'
  have htold : i.predicate.telling.calls tuples ++ [.logged event] =
      i.predicate.telling.calls others ++ [.logged event'] :=
    congrArg Run.effects ((h i.predicate.telling fun _ => rfl).symm.trans (h' _ fun _ => rfl))
  exact Predicate.calls_telling_injective (List.append_inj' htold rfl).1

/-- How often the predicate of a declaration is called, and on what.

The calls are those of the trials that the report counts, and then those of
redraws; they do not depend on what the predicate does besides yielding what
it yields.

1. There are no redraws unless the invariant was violated, if parts to blame
   are not searched for, or if the predicate raised an error by which no two
   drawn values could be meant.
2. There are never more than the settings allow for each leaf of the
   descriptors.
3. If parts are searched for, and the predicate was merely false or raised an
   error by which several drawn values could be meant, there are exactly so
   many unless the predicate holds of one of them. -/
theorem declareBy_calls {predicate : Callable → Predicate} {d : Declaration} {r : Runner}
    {report : Report} (h : (declareBy predicate d r).1.outcome = .ok report) :
    ∃ i trials redraws, d.invariant predicate r.checking.defaultTrials = .ok i ∧
      declareBy predicate d r = check i r ∧
      r.CalledOn i (trials ++ redraws) ∧
      (∀ tuples, r.CalledOn i tuples → tuples = trials ++ redraws) ∧
      report.trialsRun = (trials.length : Nat) ∧
      (report.status ≠ .violated ∨ r.checking.localizeFailures = false ∨
        (∃ c, report.counterexample = some c ∧ ¬ c.Searched) → redraws = []) ∧
      redraws.length ≤ r.checking.localizationAttempts *
        (i.descriptors.flatMap Descriptor.leafPaths).length ∧
      ∀ c, report.counterexample = some c → r.checking.localizeFailures = true → c.Searched →
        (∀ tuple ∈ redraws, i.predicate.holds tuple = false) →
        redraws.length = r.checking.localizationAttempts *
          (i.descriptors.flatMap Descriptor.leafPaths).length := by
  obtain ⟨i, hi, hcheck⟩ := exists_check_of_declareBy h
  obtain ⟨trials, redraws, hcalled, hrun, hnone, hsome⟩ := calledOn_check hcheck
  refine ⟨i, trials, redraws, hi, ?_, hcalled, fun _ ht => ht.unique hcalled, hrun, ?_, ?_, ?_⟩
  · rw [declareBy_eq, hi]
  · rintro (hstatus | hoff | ⟨c, hc, hspared⟩)
    · refine hnone ?_
      cases verdict_of_check hcheck with
      | aborted => rfl
      | held => rfl
      | violated => exact (hstatus rfl).elim
    · cases hc : report.counterexample with
      | none => exact hnone hc
      | some c =>
        have hle := (hsome c hc).2.length_le
        rw [Checking.redraws_off hoff] at hle
        exact List.length_eq_zero_iff.mp (Nat.le_zero.mp hle)
    · exact (hsome c hc).2.spared hspared
  · cases hc : report.counterexample with
    | none =>
      rw [hnone hc]
      exact Nat.zero_le _
    | some c =>
      obtain ⟨hds, hredrawn⟩ := hsome c hc
      rw [← hds]
      exact Nat.le_trans hredrawn.length_le (r.checking.redraws_le c.descriptors)
  · intro c hc hon hsearched hrejected
    obtain ⟨hds, hredrawn⟩ := hsome c hc
    rw [← hds, ← Checking.redraws_on hon]
    exact (hredrawn.searched hsearched).length_eq hrejected

/-- The declaration of an invariant that no boolean satisfies. -/
def neverDeclared : Declaration :=
  ⟨.descriptor (.boolean none), .function (.defined 0 (some "never") (some "never") ""), .int 3, ""⟩

theorem declareBy_calls_never :
    let r := ofSeed {} {} 0
    ∃ report i trial redraws,
      (declareBy (fun _ => never.predicate) neverDeclared r).1.outcome = .ok report ∧
        report.status = .violated ∧ r.CalledOn i ([trial] ++ redraws) ∧ redraws.length = 8 := by
  intro r
  have hran : (declareBy (fun _ => never.predicate) neverDeclared r).1.outcome.toOption.map
      (fun report => (report.status, report.trialsRun, report.counterexample.map
        fun c => c.cause.isNone)) = some (.violated, 1, some true) := by
    decide +kernel
  obtain ⟨report, hreport, htold⟩ := Option.map_eq_some_iff.mp hran
  obtain ⟨hstatus, htold⟩ := Prod.mk.inj htold
  obtain ⟨hrun, hc⟩ := Prod.mk.inj htold
  obtain ⟨c, hc, hcause⟩ := Option.map_eq_some_iff.mp hc
  have h : (declareBy (fun _ => never.predicate) neverDeclared r).1.outcome = .ok report :=
    toOption_eq_some.mp hreport
  obtain ⟨i, trials, redraws, hi, -, hcalled, -, hlength, -, -, hall⟩ := declareBy_calls h
  cases hi
  have hsearched : c.Searched := by
    intro e he
    rw [he] at hcause
    cases hcause
  rw [hrun] at hlength
  obtain ⟨trial, rfl⟩ := List.length_eq_one_iff.mp (Int.ofNat.inj hlength).symm
  exact ⟨report, _, trial, redraws, h, hstatus, hcalled,
    hall c hc rfl hsearched fun _ _ => rfl⟩

end Runner

end Conformance
