import Conformance.Proofs.Invariant.Verdict

/-!
# Conformance.Proofs.Invariant.Stream

What a runner does to its master source over whole runs.

A run is a list of requests, each a declaration to check or a tuple to draw
again, with an answer to each (`Runner.serve`).  One request moves the source
on by the trials that it ran and by nothing else (`answered_serve`).  Over a
run it follows that

* the `j`-th trial of a run, whichever requests it falls to, is that of the
  `j`-th seed of the source (`serve_eq_advance`);
* requests that run no trial can be left out (`serve_kept`);
* how the part to blame is searched for changes nothing else
  (`withoutBlame_serve`).
-/

namespace Conformance

/-! ## Requests -/

/-- What a runner is asked for. -/
inductive Request
  /-- check what was declared; `predicate` says what functions do -/
  | declare (predicate : Callable → Predicate) (declaration : Declaration)
  /-- draw the tuple of a trial again -/
  | replay (descriptors : Value) (trialSeed : Int)

/-- What a runner answers. -/
inductive Answer
  | report (told : Run Report)
  | tuple (drawn : Except Fault (List Value))

namespace Request

/-- The answer to a request, and the runner after it. -/
def serve (r : Runner) : Request → Answer × Runner
  | declare predicate d =>
    let (told, r) := Runner.declareBy predicate d r
    (.report told, r)
  | replay ds trialSeed => (.tuple (r.replay ds trialSeed), r)

/-- If a declaration is accepted, then as an ordinary invariant. -/
def Ordinary (c : Checking) : Request → Prop
  | declare predicate d => ∀ i, d.invariant predicate c.defaultTrials = .ok i → i.Ordinary
  | replay .. => True

/-- Whether a request is ordinary depends on the default budget alone. -/
theorem Ordinary.of_defaultTrials {q : Request} {c c' : Checking} (h : q.Ordinary c)
    (hdefault : c'.defaultTrials = c.defaultTrials) : q.Ordinary c' := by
  cases q with
  | replay ds seed => trivial
  | declare predicate d =>
    intro i hi
    rw [hdefault] at hi
    exact h i hi

/-- A request that runs no trial: a declaration that is refused or aborted,
or a tuple to draw again. -/
def Idle (c : Checking) : Request → Prop
  | declare predicate d =>
    ∀ i, d.invariant predicate c.defaultTrials = .ok i → ∃ e ∈ i.descriptors, e.HasFunction
  | replay .. => True

end Request

namespace Answer

/-- The trials that an answer reports. -/
def trialsRun : Answer → Nat
  | report told =>
    match told.outcome with
    | .ok found => found.trialsRun.toNat
    | .error _ => 0
  | tuple _ => 0

/-- No draw of the trials was given up. -/
def Completes : Answer → Prop
  | report told => told.Completes
  | tuple _ => True

instance : (a : Answer) → Decidable a.Completes
  | report told => inferInstanceAs (Decidable told.Completes)
  | tuple _ => isTrue trivial

/-- What is told, but for the part to blame. -/
def withoutBlame : Answer → Answer
  | report told => report ⟨told.outcome.map Runner.withoutBlame, []⟩
  | tuple drawn => tuple drawn

theorem trialsRun_withoutBlame (a : Answer) : a.withoutBlame.trialsRun = a.trialsRun := by
  cases a with
  | tuple drawn => rfl
  | report told =>
    obtain ⟨fault | found, effects⟩ := told
    · rfl
    · rfl

end Answer

namespace Runner

variable {r : Runner} {q : Request}

/-- The answers to requests in turn, and the runner after them. -/
def serve (r : Runner) : List Request → List Answer × Runner
  | [] => ([], r)
  | q :: requests =>
    let (answer, r) := q.serve r
    let (answers, r) := serve r requests
    (answer :: answers, r)

/-- The runner after so many trials. -/
def advance (r : Runner) (count : Nat) : Runner :=
  { r with source := r.source.afterSeeds count }

/-- The trials that answers report. -/
def trialsOf : List Answer → Nat
  | [] => 0
  | a :: answers => a.trialsRun + trialsOf answers

/-- Trials in two stretches are trials in one. -/
theorem advance_add (r : Runner) (m n : Nat) : r.advance (m + n) = (r.advance m).advance n := by
  unfold advance
  rw [Twister.afterSeeds_add]

theorem trialSeed_advance (r : Runner) (m j : Nat) :
    (r.advance m).source.trialSeed j = r.source.trialSeed (m + j) :=
  r.source.trialSeed_afterSeeds m j

theorem serve_cons (r : Runner) (q : Request) (requests : List Request) :
    r.serve (q :: requests) = ((q.serve r).1 :: ((q.serve r).2.serve requests).1,
      ((q.serve r).2.serve requests).2) := rfl

/-- Requests in two stretches are served one after the other. -/
theorem serve_append (r : Runner) (before after : List Request) :
    r.serve (before ++ after) = ((r.serve before).1 ++ ((r.serve before).2.serve after).1,
      ((r.serve before).2.serve after).2) := by
  induction before generalizing r with
  | nil => rfl
  | cons q before ih =>
    rw [List.cons_append, serve_cons, serve_cons, ih]
    rfl

/-! ## One request -/

/-- How a runner answers a request. -/
inductive Answered (r : Runner) : Request → Answer → Prop
  | refused {predicate d e} (hd : d.invariant predicate r.checking.defaultTrials = .error e) :
    Answered r (.declare predicate d) (.report (Run.raise e))
  | reported {predicate d i told report tuples more}
    (hd : d.invariant predicate r.checking.defaultTrials = .ok i)
    (ho : told.outcome = .ok report) (hverdict : r.Verdict i report)
    (hlength : report.trialsRun = (tuples.length : Nat)) (hdrawn : r.Drawn i tuples)
    (heffects : told.effects = i.predicate.calls tuples ++ more) :
    Answered r (.declare predicate d) (.report told)
  | replayed {ds seed} : Answered r (.replay ds seed) (.tuple (r.replay ds seed))

/-- A request moves the source on by the trials that it ran. -/
theorem answered_serve (hq : q.Ordinary r.checking) (ha : (q.serve r).1.Completes) :
    r.Answered q (q.serve r).1 ∧ (q.serve r).2 = r.advance (q.serve r).1.trialsRun := by
  cases q with
  | replay ds seed => exact ⟨.replayed, rfl⟩
  | declare predicate d =>
    have hserve : (Request.declare predicate d).serve r =
      (.report (declareBy predicate d r).1, (declareBy predicate d r).2) := rfl
    rw [hserve, declareBy_eq] at ha ⊢
    rcases hd : d.invariant predicate r.checking.defaultTrials with e | i
    · exact ⟨.refused hd, rfl⟩
    · simp only [hd] at ha ⊢
      have hchecked := r.checked_check i
      generalize hended : check i r = ended at hchecked ha ⊢
      cases hchecked with
      | fault h =>
        obtain rfl := check_error (hq i hd) (by rw [hended]; exact h)
        exact absurd h ha
      | @reported told report tuples more ho heffects hverdict hlength hdrawn =>
        refine ⟨.reported hd ho hverdict hlength hdrawn heffects, ?_⟩
        have htrials : (Answer.report told).trialsRun = tuples.length := by
          simp only [Answer.trialsRun, ho, hlength, Int.toNat_natCast]
        rw [htrials]
        rfl

/-! ## Runs -/

/-- The first request of a run, and what is left for the others. -/
theorem answered_serve_cons {requests : List Request}
    (hq : ∀ q' ∈ q :: requests, q'.Ordinary r.checking)
    (ha : ∀ a ∈ (r.serve (q :: requests)).1, a.Completes) :
    r.Answered q (q.serve r).1 ∧ (q.serve r).2 = r.advance (q.serve r).1.trialsRun ∧
      (∀ q' ∈ requests, q'.Ordinary (q.serve r).2.checking) ∧
      ∀ a ∈ ((q.serve r).2.serve requests).1, a.Completes := by
  rw [serve_cons] at ha
  obtain ⟨hanswered, hstep⟩ :=
    answered_serve (hq q List.mem_cons_self) (ha _ List.mem_cons_self)
  refine ⟨hanswered, hstep, ?_, fun a hmem => ha a (List.mem_cons_of_mem _ hmem)⟩
  rw [hstep]
  exact fun q' hmem => hq q' (List.mem_cons_of_mem q hmem)

/-- A run moves the source on by the trials of its requests, and by nothing else. -/
theorem serve_eq_advance {requests : List Request}
    (hq : ∀ q ∈ requests, q.Ordinary r.checking)
    (ha : ∀ a ∈ (r.serve requests).1, a.Completes) :
    (r.serve requests).2 = r.advance (trialsOf (r.serve requests).1) := by
  induction requests generalizing r with
  | nil => rfl
  | cons q requests ih =>
    obtain ⟨-, hstep, hordinary, hrest⟩ := answered_serve_cons hq ha
    rw [serve_cons]
    rw [trialsOf, advance_add, ← hstep]
    exact ih hordinary hrest

/-! ## Requests left out -/

/-- No request changes the settings. -/
theorem checking_serve (r : Runner) (q : Request) : (q.serve r).2.checking = r.checking := by
  cases q with
  | replay ds seed => rfl
  | declare predicate d =>
    obtain ⟨source, hsource⟩ := r.declareBy_snd predicate d
    show (declareBy predicate d r).2.checking = r.checking
    rw [hsource]

/-- A request that runs no trial leaves the runner as it is. -/
theorem serve_of_idle (h : q.Idle r.checking) : (q.serve r).2 = r := by
  cases q with
  | replay ds seed => rfl
  | declare predicate d =>
    show (declareBy predicate d r).2 = r
    rw [declareBy_eq]
    split
    · next i hd =>
      obtain ⟨e, he⟩ := exists_obstacle (h i hd)
      rw [check_of_obstacle he]
    · rfl

/-- Requests that run no trial can be left out of a run: the answers to the
others stay as they are. -/
theorem serve_kept (r : Runner) (marked : List (Request × Bool))
    (h : ∀ m ∈ marked, m.2 = false → m.1.Idle r.checking) :
    (r.serve ((marked.filter (·.2)).map (·.1))).1 =
      (((r.serve (marked.map (·.1))).1.zip (marked.map (·.2))).filter (·.2)).map (·.1) := by
  induction marked generalizing r with
  | nil => rfl
  | cons m marked ih =>
    obtain ⟨q, kept⟩ := m
    have hrest : ∀ m ∈ marked, m.2 = false → m.1.Idle (q.serve r).2.checking := by
      rw [checking_serve]
      exact fun m hmem => h m (List.mem_cons_of_mem _ hmem)
    cases kept with
    | true =>
      simp only [List.filter_cons, List.map_cons, serve_cons, List.zip_cons_cons, if_true]
      rw [ih (q.serve r).2 hrest]
    | false =>
      have hidle : (q.serve r).2 = r := serve_of_idle (h (q, false) List.mem_cons_self rfl)
      simp only [List.filter_cons, List.map_cons, serve_cons, List.zip_cons_cons, hidle,
        Bool.false_eq_true, if_false]
      rw [hidle] at hrest
      exact ih r hrest

/-! ## Two runners -/

/-- A verdict depends on the sampling, the seed and the source alone. -/
theorem Verdict.of_source {r' : Runner} {i : Invariant} {report : Report}
    (hsampling : r'.sampling = r.sampling) (hseed : r'.seed = r.seed)
    (hsource : r'.source = r.source) (h : r.Verdict i report) : r'.Verdict i report := by
  have hholds : ∀ j, r.HoldsAt i j → r'.HoldsAt i j := by
    intro j hj
    unfold HoldsAt tuple
    rw [hsampling, hsource]
    exact hj
  cases h with
  | aborted hf he =>
    rw [← hseed]
    exact .aborted hf he
  | held hf hall =>
    rw [← hseed]
    exact .held hf fun j hj => hholds j (hall j hj)
  | violated blame hf hk hbefore hvalues hcause =>
    rw [← hseed, ← hsource]
    refine .violated blame hf hk (fun j hj => hholds j (hbefore j hj)) ?_ hcause
    unfold tuple
    rw [hsampling, hsource]
    exact hvalues

/-- Answers to one request from one place of the source differ in the part
to blame only. -/
theorem Answered.unique {r' : Runner} {a a' : Answer}
    (hdefault : r'.checking.defaultTrials = r.checking.defaultTrials)
    (hsampling : r'.sampling = r.sampling) (hseed : r'.seed = r.seed)
    (hsource : r'.source = r.source) (h : r.Answered q a) (h' : r'.Answered q a') :
    a'.withoutBlame = a.withoutBlame := by
  cases h with
  | refused hd =>
    cases h' with
    | refused hd' =>
      rw [hdefault] at hd'
      cases hd.symm.trans hd'
      rfl
    | reported hd' =>
      rw [hdefault] at hd'
      cases hd.symm.trans hd'
  | reported hd ho hverdict =>
    cases h' with
    | refused hd' =>
      rw [hdefault] at hd'
      cases hd.symm.trans hd'
    | reported hd' ho' hverdict' =>
      rw [hdefault] at hd'
      cases hd.symm.trans hd'
      have hsame := hverdict'.unique (hverdict.of_source hsampling hseed hsource)
      simp only [Answer.withoutBlame, ho, ho', Except.map, hsame]
  | replayed =>
    cases h'
    unfold replay
    rw [hsampling]

/-- How the part to blame is searched for changes nothing else in a run. -/
theorem withoutBlame_serve {r' : Runner} {requests : List Request}
    (hdefault : r'.checking.defaultTrials = r.checking.defaultTrials)
    (hsampling : r'.sampling = r.sampling) (hseed : r'.seed = r.seed)
    (hsource : r'.source = r.source) (hq : ∀ q ∈ requests, q.Ordinary r.checking)
    (ha : ∀ a ∈ (r.serve requests).1, a.Completes)
    (ha' : ∀ a ∈ (r'.serve requests).1, a.Completes) :
    (r'.serve requests).1.map Answer.withoutBlame =
      (r.serve requests).1.map Answer.withoutBlame := by
  induction requests generalizing r r' with
  | nil => rfl
  | cons q requests ih =>
    have hq' : ∀ q' ∈ q :: requests, q'.Ordinary r'.checking :=
      fun q' hmem => (hq q' hmem).of_defaultTrials hdefault
    obtain ⟨hanswered, hstep, hordinary, hrest⟩ := answered_serve_cons hq ha
    obtain ⟨hanswered', hstep', -, hrest'⟩ := answered_serve_cons hq' ha'
    have hsame := hanswered.unique hdefault hsampling hseed hsource hanswered'
    have htrials : (q.serve r').1.trialsRun = (q.serve r).1.trialsRun := by
      rw [← Answer.trialsRun_withoutBlame, hsame, Answer.trialsRun_withoutBlame]
    rw [serve_cons, serve_cons, List.map_cons, List.map_cons, hsame]
    rw [hstep] at hordinary hrest ⊢
    rw [hstep', htrials] at hrest' ⊢
    generalize (q.serve r).1.trialsRun = count at hordinary hrest hrest' ⊢
    have hdefault : (r'.advance count).checking.defaultTrials =
      (r.advance count).checking.defaultTrials := hdefault
    have hsource : (r'.advance count).source = (r.advance count).source := by
      unfold advance
      rw [hsource]
    rw [ih hdefault hsampling hseed hsource hordinary hrest hrest']

/-! ## The law of the stream -/

/-- There is an answer to each request. -/
theorem length_serve (r : Runner) (requests : List Request) :
    (r.serve requests).1.length = requests.length := by
  induction requests generalizing r with
  | nil => rfl
  | cons q requests ih => rw [serve_cons, List.length_cons, List.length_cons, ih]

/-- The law of the master source over whole runs.

1. The trial seeds of the source are what successive draws of 64 bits yield.
2. A request that comes after `m` trials is answered from the `m`-th trial
   seed of the source on, one for each trial; one that is refused or aborted
   takes none.
3. Requests that run no trial can be left out.
4. Whether and how the part to blame is searched for changes no answer but
   for the part to blame. -/
theorem serve_stream (c : Checking) (s : Sampling) (seed : Int) (requests : List Request)
    (hq : ∀ q ∈ requests, q.Ordinary c)
    (hdraws : ∀ a ∈ ((ofSeed c s seed).serve requests).1, a.Completes) :
    (∀ count, (Draw.times count (Draw.bits 64)).runFrom (Twister.ofSeed seed) =
      (.ok ((List.range count).map (Twister.ofSeed seed).trialSeed),
        (Twister.ofSeed seed).afterSeeds count)) ∧
    (∀ before q after, requests = before ++ q :: after →
      let m := trialsOf ((ofSeed c s seed).serve before).1
      let r := (ofSeed c s seed).advance m
      (∀ j, r.source.trialSeed j = (Twister.ofSeed seed).trialSeed (m + j)) ∧
        ((ofSeed c s seed).serve before).2 = r ∧
        ((ofSeed c s seed).serve requests).1[before.length]? = some (q.serve r).1 ∧
        r.Answered q (q.serve r).1 ∧ (q.Idle c → (q.serve r).2 = r)) ∧
    (∀ marked : List (Request × Bool), marked.map (·.1) = requests →
      (∀ m ∈ marked, m.2 = false → m.1.Idle c) →
      ((ofSeed c s seed).serve ((marked.filter (·.2)).map (·.1))).1 =
        ((((ofSeed c s seed).serve requests).1.zip (marked.map (·.2))).filter (·.2)).map (·.1)) ∧
    ∀ localizeFailures localizationAttempts,
      let other := ofSeed { c with localizeFailures, localizationAttempts } s seed
      (∀ a ∈ (other.serve requests).1, a.Completes) →
        (other.serve requests).1.map Answer.withoutBlame =
          ((ofSeed c s seed).serve requests).1.map Answer.withoutBlame := by
  refine ⟨(Twister.ofSeed seed).runFrom_times_bits, ?_, ?_, ?_⟩
  · rintro before q after rfl m r
    have hlength := length_serve (ofSeed c s seed) before
    rw [serve_append] at hdraws ⊢
    have hstate : ((ofSeed c s seed).serve before).2 = r :=
      serve_eq_advance (fun q' hmem => hq q' (List.mem_append_left _ hmem))
        fun a hmem => hdraws a (List.mem_append_left _ hmem)
    rw [hstate] at hdraws ⊢
    have hordinary : ∀ q' ∈ q :: after, q'.Ordinary r.checking :=
      fun q' hmem => hq q' (List.mem_append_right before hmem)
    have hcomplete : ∀ a ∈ (r.serve (q :: after)).1, a.Completes :=
      fun a hmem => hdraws a (List.mem_append_right _ hmem)
    obtain ⟨hanswered, -⟩ := answered_serve_cons hordinary hcomplete
    refine ⟨trialSeed_advance (ofSeed c s seed) m, rfl, ?_, hanswered, fun h => ?_⟩
    · rw [← hlength, serve_cons, List.getElem?_append_right (Nat.le_refl _), Nat.sub_self]
      rfl
    · have hidle : q.Idle r.checking := h
      exact serve_of_idle hidle
  · rintro marked rfl hidle
    exact serve_kept (ofSeed c s seed) marked hidle
  · intro localizeFailures localizationAttempts other hother
    exact withoutBlame_serve rfl rfl rfl rfl hq hdraws hother

/-- Declares the invariant that no tuple satisfies, with a budget of three. -/
def declareNever (descriptor : Value) : Request :=
  .declare (fun _ => never.predicate)
    ⟨descriptor, .function (.defined 0 (some "never") none ""), .int 3, ""⟩

/-- A declaration that is refused, one that is violated, a tuple drawn again,
one that is aborted, and one more that is violated. -/
def neverAgain : List Request :=
  [declareNever .nothing, declareNever (.descriptor (.boolean none)), .replay (.tuple []) 7,
    declareNever (.descriptor (.fn none (.boolean none) (.boolean none))),
    declareNever (.descriptor (.boolean none))]

theorem serve_stream_neverAgain :
    let r := ofSeed {} {} 0
    (∀ q ∈ neverAgain, q.Ordinary {}) ∧ (∀ a ∈ (r.serve neverAgain).1, a.Completes) ∧
      trialsOf (r.serve (neverAgain.take 4)).1 = 1 ∧
      (r.advance 1).Answered (declareNever (.descriptor (.boolean none)))
        ((declareNever (.descriptor (.boolean none))).serve (r.advance 1)).1 := by
  intro r
  have hnever : never.predicate.IsOrdinary := by
    intro values fault h
    cases h
  have hq : ∀ q ∈ neverAgain, q.Ordinary {} := by
    intro q hmem
    simp only [neverAgain, List.mem_cons, List.not_mem_nil, or_false] at hmem
    rcases hmem with rfl | rfl | rfl | rfl | rfl
    · intro i hi
      cases hi
    · intro i hi
      cases hi
      exact ⟨by simp [Descriptor.WellFormed, Descriptor.NameWellFormed], hnever⟩
    · trivial
    · intro i hi
      cases hi
      exact ⟨by simp [Descriptor.WellFormed, Descriptor.NameWellFormed], hnever⟩
    · intro i hi
      cases hi
      exact ⟨by simp [Descriptor.WellFormed, Descriptor.NameWellFormed], hnever⟩
  have hdraws : ∀ a ∈ (r.serve neverAgain).1, a.Completes := by decide +kernel
  have htrials : trialsOf (r.serve (neverAgain.take 4)).1 = 1 := by decide +kernel
  obtain ⟨-, hlaw, -⟩ := serve_stream {} {} 0 neverAgain hq hdraws
  obtain ⟨-, -, -, hanswered, -⟩ := hlaw (neverAgain.take 4) _ [] rfl
  rw [htrials] at hanswered
  exact ⟨hq, hdraws, htrials, hanswered⟩

end Runner

end Conformance
