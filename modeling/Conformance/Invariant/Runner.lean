import Conformance.Act
import Conformance.Invariant.Blame
import Conformance.Invariant.Report

/-!
# Conformance.Invariant.Runner

Checks invariants by sampling.  A runner owns one master source.

1. Each trial takes 64 bits from the master source, its trial seed, and draws
   its tuple from a source of that seed alone; `replay` draws it again.
2. The trials of an invariant end at the first tuple for which the predicate
   is false or raises, or when the budget is spent.
3. An invariant with a function among its descriptors is aborted before any
   trial.
4. The search for the part to blame never touches the master source.

A declaration that is refused leaves the runner as it is.  An error that is
no ordinary one passes through, and the trials made so far count.
-/

namespace Conformance

/-- A runner of invariants. -/
structure Runner where
  checking : Checking
  sampling : Sampling
  seed : Int
  source : Twister

/-- The tuple of a trial. -/
def Sampling.replay (s : Sampling) (ds : List Descriptor) (trialSeed : Int) :
    Except Fault (List Value) :=
  ((Descriptor.generateAll s ds).runFrom (Twister.ofSeed trialSeed)).1

namespace Runner

/-- A runner at the start of the source of a seed. -/
def ofSeed (checking : Checking) (sampling : Sampling) (seed : Int) : Runner :=
  ⟨checking, sampling, seed, Twister.ofSeed seed⟩

/-- A runner at its start.  Its seed is the one given, else the one of the
settings, else `fresh`. -/
def start (checking : Checking) (sampling : Sampling) (seed : Option Int) (fresh : Int) : Runner :=
  ofSeed checking sampling ((seed <|> checking.seed).getD fresh)

/-- Logs an event of a runner. -/
def log (r : Runner) (level : Level) (event : String) (fields : List (String × Value)) :
    Run Unit :=
  Run.log level event
    ([("system", .str "conformos.engine.invariants"), ("seed", .int r.seed)] ++ fields)

/-- The error that keeps descriptors from being sampled. -/
def obstacle? (ds : List Descriptor) : Option Error :=
  ds.findSome? fun d =>
    match d.ensureGenerable [] with
    | .ok _ => none
    | .error e => some e

/-- The counterexample that a trial is, if it is one. -/
def trial (r : Runner) (i : Invariant) (index : Nat) (trialSeed : Nat) :
    Run (Option (CounterExample Error)) := do
  let found (values : List Value) (blame : Option Blame) (cause : Option Error) :
      Option (CounterExample Error) :=
    some ⟨values, i.descriptors, index, trialSeed, blame.map fun b => b.1,
      (blame.map (·.2)).getD [], cause⟩
  match r.sampling.replay i.descriptors trialSeed with
  | .error fault => throw fault
  | .ok values =>
    let tried := i.predicate values
    Run.after tried.effects <|
      match tried.outcome with
      | .ok v =>
        if v.truthy then pure none
        else do
          let blame ← localize r.checking r.sampling i.predicate i.descriptors values trialSeed
          pure (found values blame none)
      | .error (.raised e ticket) =>
        if e.isOrdinary then do
          let blame ←
            attribution r.checking r.sampling i.predicate i.descriptors values trialSeed e
          pure (found values blame (some e))
        else throw (.raised e ticket)
      | .error .unfinished => throw .unfinished

/-- The trials from `index` on, `left` of them at most, until one is a
counterexample. -/
def trials (r : Runner) (i : Invariant) : (left index : Nat) → (source : Twister) →
    Run (Option (CounterExample Error)) × Twister
  | 0, _, source => (pure none, source)
  | left + 1, index, source =>
    let (trialSeed, source) := Twister.bits 64 source
    let tried := r.trial i index trialSeed
    match tried.outcome with
    | .ok none =>
      let (rest, source) := trials r i left (index + 1) source
      (Run.after tried.effects rest, source)
    | _ => (tried, source)

/-- The report on trials that came to an end. -/
def report (r : Runner) (i : Invariant) : Option (CounterExample Error) → Run Report
  | none => do
    r.log .info "invariant_held" [("invariant", .str i.label), ("trials", .int i.budget)]
    pure ⟨i.label, .held, i.budget, i.budget, r.seed, none, none⟩
  | some c => do
    let place ← Run.ofExcept c.location
    r.log .info "invariant_violated"
      [("invariant", .str i.label), ("trial", .int c.trial), ("trial_seed", .int c.trialSeed),
        ("location", .str place), ("cause", (c.cause.map fun e => .str e.kind).getD .nothing)]
    pure ⟨i.label, .violated, i.budget, c.trial, r.seed, some c, none⟩

/-- Checks an invariant. -/
def check (i : Invariant) : Act Runner Report := fun r =>
  match obstacle? i.descriptors with
  | some e =>
    (do
      r.log .warning "invariant_aborted" [("invariant", .str i.label), ("error", .str e.text)]
      pure ⟨i.label, .aborted, i.budget, 0, r.seed, none, some e⟩, r)
  | none =>
    let (tried, source) := r.trials i i.budget 1 r.source
    (do
      let counterexample ← tried
      r.report i counterexample, { r with source })

/-- Checks what was declared, unless it is refused; `predicate` says what functions do. -/
def declareBy (predicate : Callable → Predicate) (d : Declaration) : Act Runner Report := do
  let i ← Act.ofExcept (d.invariant predicate (← get).checking.defaultTrials)
  check i

/-- Checks what was declared with functions of a library, unless it is refused. -/
def declare (lib : Library) (d : Declaration) : Act Runner Report :=
  declareBy lib.predicate d

/-- The tuple of a trial, for what was written down as the descriptors. -/
def replay (r : Runner) (descriptors : Value) (trialSeed : Int) : Except Fault (List Value) :=
  match descriptors.items? with
  | some ds => ((Descriptor.generateForAll r.sampling ds).runFrom (Twister.ofSeed trialSeed)).1
  | none => .error (.of (.intrinsic .type))

end Runner

end Conformance
