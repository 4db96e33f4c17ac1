import Conformance.Proofs.Descriptor.Outcome
import Conformance.Proofs.Generate.Record
import Conformance.Proofs.Invariant.Coin

/-!
# Conformance.Proofs.Invariant.Fields

Several arguments, or one struct with a field for each of them.

Both ways the same numbers are drawn: the struct draws for its fields in
their order (`Sampling.replay_record`), its leaves are those of the
arguments one name further down (`Leaf.all_within`), and the redraw of such a
leaf redraws one field and no other (`Leaf.redraw_within`).  So a predicate of
the arguments, and a predicate that asks it about the fields, are falsified
on the same trial and by the same part.

Only where an error comes from is told otherwise: what was an argument of
its own is part of the one argument (`Origin.within`), and a mapping is never
what a function was called with.
-/

namespace Conformance

/-! ## Parts of one argument -/

/-- The path to a part of the `i`-th field, from the struct. -/
def Path.within (fields : List (String × Descriptor)) (i : Nat) (path : Path) : Path :=
  match fields[i]? with
  | some f => .field f.1 :: path
  | none => path

/-- The part of the one struct that a part of one of several arguments is. -/
def Blame.within (fields : List (String × Descriptor)) (blame : Blame) : Blame :=
  (0, Path.within fields blame.1 blame.2)

/-- The leaf of the one struct that a leaf of one of several arguments is. -/
def Leaf.within (fields : List (String × Descriptor)) (values : List Value) (leaf : Leaf) : Leaf :=
  ⟨0, .struct none fields, record fields values, Path.within fields leaf.argument leaf.path⟩

/-- Where an object comes from, if the arguments are the fields of one. -/
def Origin.within (fields : List (String × Descriptor)) : Origin → Origin
  | argument i steps =>
    match fields[i]? with
    | some f => argument 0 (.key (.str f.1) :: steps)
    | none => made
  | o => o

/-- An error, if the arguments are the fields of one. -/
def Error.within (fields : List (String × Descriptor)) : Error → Error
  | argument m f w o => argument m f w (o.within fields)
  | e => e

/-- A fault, if the arguments are the fields of one. -/
def Fault.within (fields : List (String × Descriptor)) : Fault → Fault
  | raised e ticket => raised (e.within fields) ticket
  | unfinished => unfinished

/-- `q` asks `p` about the values under the names of fields: called with one
mapping of all of them, it does what `p` does. -/
def Predicate.AsksFields (fields : List (String × Descriptor)) (p q : Predicate) : Prop :=
  ∀ values, values.length = fields.length →
    (q [record fields values]).outcome = (p values).outcome.mapError (Fault.within fields)

/-- The predicate of one mapping that asks `p` about the values under the
names of fields. -/
def Predicate.byName (fields : List (String × Descriptor)) (p : Predicate) : Predicate
  | [v] =>
    match fields.mapM fun f => v.index (.str f.1) with
    | .ok values => ⟨(p values).outcome.mapError (Fault.within fields), (p values).effects⟩
    | .error e => Run.raise e
  | _ => Run.raise (.intrinsic .type)

section

variable {fields : List (String × Descriptor)} {values : List Value} {i : Nat}
variable {f : String × Descriptor}

/-- A part of the `i`-th argument stands below the name of the `i`-th field. -/
theorem Path.within_of_getElem? (hf : fields[i]? = some f) (path : Path) :
    Path.within fields i path = .field f.1 :: path := by
  rw [within, hf]

/-- Whether an error counts as a failure is not told by its place. -/
theorem Error.isOrdinary_within (e : Error) : (e.within fields).isOrdinary = e.isOrdinary := by
  cases e <;> rfl

namespace Predicate

variable {p q : Predicate}

/-- The predicate by name asks about the fields, if no name repeats. -/
theorem asksFields_byName (hnames : (fields.map (·.1)).Nodup) :
    p.AsksFields fields (p.byName fields) := by
  intro values hlength
  rw [byName, mapM_index_record hnames hlength]

/-- Failures are rejections, whatever they say. -/
theorem AsksFields.outcome_accepts (hq : p.AsksFields fields q) (hp : p.IsOrdinary)
    (hlength : values.length = fields.length) :
    (q.accepts [record fields values]).outcome = (p.accepts values).outcome := by
  have hasked := hq values hlength
  unfold accepts
  rcases hvalues : (p values).outcome with fault | v
  · rw [hvalues] at hasked
    have hfailure := hp values fault hvalues
    cases fault with
    | unfinished => exact hfailure.elim
    | raised e ticket =>
      have he : e.isOrdinary = true := hfailure.1
      simp [hasked, hvalues, Except.mapError, Fault.within, Fault.isOrdinary,
        Error.isOrdinary_within, he]
  · rw [hvalues] at hasked
    simp [hasked, hvalues, Except.mapError]

/-- A predicate that asks another holds of the records of its tuples. -/
theorem AsksFields.holds (hq : p.AsksFields fields q) (hlength : values.length = fields.length)
    (hp : p.holds values = true) : q.holds [record fields values] = true := by
  unfold Predicate.holds at hp ⊢
  rw [hq values hlength]
  rcases hvalues : (p values).outcome with fault | v
  · rw [hvalues] at hp
    cases hp
  · rw [hvalues] at hp
    exact hp

/-- A predicate that asks another is falsified by the records of its tuples. -/
theorem AsksFields.falsified (hq : p.AsksFields fields q)
    (hlength : values.length = fields.length) {cause : Option Error}
    (hp : p.Falsified values cause) :
    q.Falsified [record fields values] (cause.map (Error.within fields)) := by
  have hasked := hq values hlength
  cases hp with
  | false h hv =>
    rw [h] at hasked
    exact .false hasked hv
  | raised h he =>
    rw [h] at hasked
    exact .raised hasked ((Error.isOrdinary_within _).trans he)

end Predicate

/-- The place of a field, by its name. -/
theorem eq_of_name_eq {j : Nat} {g : String × Descriptor} (hnames : (fields.map (·.1)).Nodup)
    (hf : fields[i]? = some f) (hg : fields[j]? = some g) (h : f.1 = g.1) : i = j := by
  refine (List.getElem?_inj ?_ hnames).mp ?_
  · obtain ⟨hi, -⟩ := List.getElem?_eq_some_iff.mp hf
    rwa [List.length_map]
  · rw [List.getElem?_map, List.getElem?_map, hf, hg, Option.map_some, Option.map_some, h]

end

/-! ## Leaves -/

namespace Leaf

variable {s : Sampling} {p q : Predicate} {fields : List (String × Descriptor)}
variable {values : List Value} {leaf : Leaf} {t t' : Twister}

/-- The leaves of the last fields, those from the `k`-th on. -/
theorem fieldLeafPaths_within (values : List Value) {k : Nat} {rest : List (String × Descriptor)}
    {others : List Value} (hrest : fields.drop k = rest) (hlength : others.length = rest.length) :
    (Descriptor.fieldLeafPaths rest).map (fun e =>
        (⟨0, .struct none fields, record fields values, e.1⟩ : Leaf)) =
      (((rest.map (·.2)).zip others).zipIdx k).flatMap fun a =>
        a.1.1.leafPaths.map fun e => Leaf.within fields values ⟨a.2, a.1.1, a.1.2, e.1⟩ := by
  -- the index of an argument is its place among all fields, so `k` goes along
  induction rest generalizing k others with
  | nil => simp [Descriptor.fieldLeafPaths]
  | cons f rest ih =>
    cases others with
    | nil => simp at hlength
    | cons v others =>
      have hf : fields[k]? = some f := by
        rw [← Nat.add_zero k, ← List.getElem?_drop, hrest, List.getElem?_cons_zero]
      have hdrop : fields.drop (k + 1) = rest := by
        rw [← List.drop_drop, hrest, List.drop_one, List.tail_cons]
      obtain ⟨n, d⟩ := f
      rw [Descriptor.fieldLeafPaths, List.map_append, ih hdrop (Nat.succ.inj hlength),
        List.map_cons, List.zip_cons_cons, List.zipIdx_cons, List.flatMap_cons]
      simp only [Descriptor.under, List.map_map, within, Path.within_of_getElem? hf]
      rfl

/-- The leaves of the struct are those of the arguments, in the same order. -/
theorem all_within (hlength : values.length = fields.length) :
    Leaf.all [.struct none fields] [record fields values] =
      (Leaf.all (fields.map (·.2)) values).map (Leaf.within fields values) := by
  have hall := fieldLeafPaths_within values fields.drop_zero hlength
  unfold Leaf.all
  rw [List.map_flatMap]
  simpa [Descriptor.leafPaths, List.map_map, Function.comp_def] using hall

/-- The field that an argument is. -/
theorem exists_field (h : leaf ∈ Leaf.all (fields.map (·.2)) values) :
    ∃ f, fields[leaf.argument]? = some f ∧ f.2 = leaf.descriptor := by
  obtain ⟨hd, -⟩ := mem_all.mp h
  rw [List.getElem?_map] at hd
  exact Option.map_eq_some_iff.mp hd

/-- The redraw of a leaf of the struct is that of the leaf of the argument. -/
theorem redraw_within (hnames : (fields.map (·.1)).Nodup)
    (h : leaf ∈ Leaf.all (fields.map (·.2)) values) :
    (leaf.within fields values).redraw s [record fields values] =
      leaf.redraw s values >>= fun tuple => pure [record fields tuple] := by
  obtain ⟨f, hf, hd⟩ := exists_field h
  obtain ⟨-, hv, -⟩ := mem_all.mp h
  simp only [redraw, within, Path.within_of_getElem? hf,
    Descriptor.generateAt_record hnames hf hv, hd, bind_assoc, pure_bind]
  rfl

/-- A redraw leaves the tuple as long as it was. -/
theorem length_of_redraw {tuple : List Value}
    (h : (leaf.redraw s values).runFrom t = (.ok tuple, t')) : tuple.length = values.length := by
  rw [redraw, Draw.runFrom_bind_ok] at h
  obtain ⟨v, t₁, -, h⟩ := h
  obtain ⟨rfl, -⟩ : values.set leaf.argument v = tuple ∧ t₁ = t' := by simpa using h
  exact List.length_set

/-- The next attempt at a leaf, and the others if it is rejected. -/
theorem outcome_redrawHolds_succ (attempts : Nat) (t : Twister) :
    (leaf.redrawHolds s p values (attempts + 1) t).outcome =
      match (leaf.redraw s values).runFrom t with
      | (.ok tuple, t₁) =>
        (p.accepts tuple).outcome >>= fun held =>
          if held then .ok (true, t₁) else (leaf.redrawHolds s p values attempts t₁).outcome
      | (.error fault, _) => .error fault := by
  rw [redrawHolds, Search.bind_apply, redraw, Draw.runFrom_bind, Search.draw]
  rcases (leaf.descriptor.generateAt s leaf.path leaf.value).runFrom t with ⟨fault | v, t₁⟩
  · rfl
  · simp only [pure_bind, Draw.runFrom_pure, Search.bind_apply, Search.lift_apply, bind_assoc,
      Run.outcome_bind]
    rcases (p.accepts (values.set leaf.argument v)).outcome with fault | held
    · rfl
    · cases held <;> rfl

section

variable (hnames : (fields.map (·.1)).Nodup) (hlength : values.length = fields.length)
variable (hp : p.IsOrdinary) (hq : p.AsksFields fields q)

include hnames hlength hp hq in
/-- Each attempt draws the same, and it is accepted if its tuple is. -/
theorem outcome_redrawHolds_within (h : leaf ∈ Leaf.all (fields.map (·.2)) values)
    (attempts : Nat) (t : Twister) :
    ((leaf.within fields values).redrawHolds s q [record fields values] attempts t).outcome =
      (leaf.redrawHolds s p values attempts t).outcome := by
  induction attempts generalizing t with
  | zero => rfl
  | succ attempts ih =>
    rw [outcome_redrawHolds_succ, outcome_redrawHolds_succ, redraw_within hnames h,
      Draw.runFrom_bind]
    rcases htuple : (leaf.redraw s values).runFrom t with ⟨fault | tuple, t₁⟩
    · rfl
    · have haccepts := hq.outcome_accepts hp ((length_of_redraw htuple).trans hlength)
      simp only [Draw.runFrom_pure, haccepts, ih]

include hnames hlength hp hq in
/-- The searches end at the same leaf. -/
theorem outcome_firstToHold_within (attempts : Nat) {leaves : List Leaf}
    (h : ∀ leaf ∈ leaves, leaf ∈ Leaf.all (fields.map (·.2)) values) (t : Twister) :
    (firstToHold s attempts q [record fields values]
        (leaves.map (Leaf.within fields values)) t).outcome =
      (firstToHold s attempts p values leaves t).outcome.map fun found =>
        (found.1.map (Blame.within fields), found.2) := by
  induction leaves generalizing t with
  | nil => rfl
  | cons leaf leaves ih =>
    obtain ⟨hleaf, hleaves⟩ := List.forall_mem_cons.mp h
    have hholds := outcome_redrawHolds_within (s := s) hnames hlength hp hq hleaf attempts t
    rw [List.map_cons, firstToHold, firstToHold, Search.bind_apply, Search.bind_apply,
      Run.outcome_bind, Run.outcome_bind, hholds]
    rcases (leaf.redrawHolds s p values attempts t).outcome with fault | ⟨held, t₁⟩
    · rfl
    · cases held with
      | true => rfl
      | false => exact ih hleaves t₁

end

end Leaf

section

variable {c : Checking} {s : Sampling} {p q : Predicate} {fields : List (String × Descriptor)}
variable {values : List Value} {seed : Nat}

/-- The searches find the same part. -/
theorem outcome_localize_within (hnames : (fields.map (·.1)).Nodup)
    (hlength : values.length = fields.length) (hp : p.IsOrdinary) (hq : p.AsksFields fields q) :
    (localize c s q [.struct none fields] [record fields values] seed).outcome =
      (localize c s p (fields.map (·.2)) values seed).outcome.map
        (Option.map (Blame.within fields)) := by
  unfold localize
  split
  · have hsearch := Leaf.outcome_firstToHold_within (s := s) hnames hlength hp hq
      c.localizationAttempts (fun _ h => h) (redrawSource seed)
    rw [Leaf.all_within hlength, Run.outcome_bind, Run.outcome_bind, hsearch]
    generalize (Leaf.firstToHold s c.localizationAttempts p values
      (Leaf.all (fields.map (·.2)) values) (redrawSource seed)).outcome = told
    rcases told with fault | found
    · rfl
    · rfl
  · rfl

/-- A mapping is not what was rejected: it is not passed on whole, and none
exists only once. -/
theorem holders_record (w : Value) (o : Origin) :
    holders [.struct none fields] [record fields values] w (o.within fields) = [] := by
  have hdrawn : (o.within fields).isDrawn [.struct none fields] 0 (record fields values) w =
      false := by
    have hpassed : Origin.isDrawn.passedOn 0 (o.within fields) = false := by
      cases o with
      | given => rfl
      | made => rfl
      | argument i steps =>
        simp only [Origin.within]
        cases fields[i]? with
        | none => rfl
        | some f => rfl
    rw [Origin.isDrawn, hpassed]
    rfl
  simp [holders, hdrawn]

/-- No rejected argument is the one mapping, so none is blamed. -/
theorem attribution_within (e : Error) :
    attribution c s q [.struct none fields] [record fields values] seed (e.within fields) =
      pure none := by
  cases e with
  | argument m f w o =>
    unfold attribution Error.within
    simp only [holders_record]
  | _ => rfl

/-- What is drawn for the struct is the record of what is drawn for the arguments. -/
theorem Sampling.replay_record (hf : ∀ f ∈ fields, ¬ f.2.HasFunction) (seed : Int) :
    s.replay [.struct none fields] seed =
      (s.replay (fields.map (·.2)) seed).map fun values => [record fields values] := by
  unfold replay
  rw [Descriptor.generateAll, Descriptor.generate_struct hf, bind_assoc, Draw.runFrom_bind]
  generalize (Descriptor.generateAll s (fields.map (·.2))).runFrom (Twister.ofSeed seed) = drawn
  rcases drawn with ⟨fault | values, t⟩
  · rfl
  · rfl

end

/-! ## Trials -/

/-- `j` states of one struct what `i` states of its fields. -/
structure Invariant.Within (fields : List (String × Descriptor)) (i j : Invariant) : Prop where
  names : (fields.map (·.1)).Nodup
  wellFormed : ∀ f ∈ fields, f.2.WellFormed
  arguments : i.descriptors = fields.map (·.2)
  struct : j.descriptors = [.struct none fields]
  budget : j.budget = i.budget
  predicate : i.predicate.IsOrdinary
  asks : i.predicate.AsksFields fields j.predicate

/-- Counterexamples that agree, one of several arguments and one of a struct
of them.  Without a cause they point at the same part, or both at none. -/
structure CounterExample.Within (fields : List (String × Descriptor))
    (c c' : CounterExample Error) : Prop where
  arguments : c.descriptors = fields.map (·.2)
  struct : c'.descriptors = [.struct none fields]
  length : c.values.length = fields.length
  values : c'.values = [record fields c.values]
  trial : c'.trial = c.trial
  trialSeed : c'.trialSeed = c.trialSeed
  cause : c'.cause = c.cause.map (Error.within fields)
  unblamed : c.cause = none → (c'.argument = none ↔ c.argument = none)
  blamed : c.cause = none → ∀ (i : Nat) f path, fields[i]? = some f →
    (c'.argument = some 0 ∧ c'.path = .field f.1 :: path ↔
      c.argument = some (i : Int) ∧ c.path = path)

namespace Runner

variable {r : Runner} {i j : Invariant} {fields : List (String × Descriptor)}
variable {values : List Value} {index seed : Nat} {cause : Option Error} {blame : Option Blame}

section

variable (h : i.Within fields j) (hf : ∀ f ∈ fields, ¬ f.2.HasFunction)
variable (hvalues : r.sampling.replay i.descriptors seed = .ok values)

include h hf hvalues in
/-- There is one value for each field. -/
theorem length_of_replay_within : values.length = fields.length := by
  rw [h.arguments] at hvalues
  have hlength := (Sampling.canonical_of_replay (List.forall_mem_map.mpr hf) hvalues).length_eq
  rw [← hlength, List.length_map]

include h hf hvalues in
/-- The tuple of the struct is the record of that of the arguments. -/
theorem replay_within : r.sampling.replay j.descriptors seed = .ok [record fields values] := by
  rw [h.arguments] at hvalues
  rw [h.struct, Sampling.replay_record hf, hvalues]
  rfl

include h in
/-- The part that is blamed belongs to one of the fields. -/
theorem exists_field_of_blame {b : Blame}
    (hblame : (r.blame i values seed none).outcome = .ok (some b)) :
    ∃ f, fields[b.1]? = some f ∧ b.2.all Segment.isPlain := by
  rw [blame, h.arguments] at hblame
  obtain ⟨leaf, hleaf, rfl⟩ := exists_leaf_of_localize hblame
  obtain ⟨f, hf, -⟩ := Leaf.exists_field hleaf
  exact ⟨f, hf, Leaf.all_isPlain_of_mem_all (List.forall_mem_map.mpr h.wellFormed) hleaf⟩

include h in
/-- Without a cause the same part is blamed, with one none is. -/
theorem outcome_blame_within (hlength : values.length = fields.length)
    (hblame : (r.blame i values seed cause).outcome = .ok blame) :
    (r.blame j [record fields values] seed (cause.map (Error.within fields))).outcome =
      .ok (if cause.isSome then none else blame.map (Blame.within fields)) := by
  cases cause with
  | none =>
    rw [Runner.blame, h.arguments] at hblame
    rw [Option.map_none, Runner.blame, h.struct,
      outcome_localize_within h.names hlength h.predicate h.asks, hblame]
    rfl
  | some e =>
    rw [Option.map_some, Runner.blame, h.struct, attribution_within]
    rfl

include h in
/-- The two counterexamples of one trial agree, and where the second points can be told. -/
theorem counterExample_within (index : Nat) (hlength : values.length = fields.length)
    (hblame : (r.blame i values seed cause).outcome = .ok blame) :
    let blame' := if cause.isSome then none else blame.map (Blame.within fields)
    let c' := counterExample j [record fields values] index seed
      (cause.map (Error.within fields)) blame'
    (counterExample i values index seed cause blame).Within fields c' ∧
      ∃ place, c'.location = .ok place := by
  cases cause with
  | some e =>
    refine ⟨⟨h.arguments, h.struct, hlength, rfl, rfl, rfl, rfl, ?_, ?_⟩, ?_⟩
    · intro hcause
      cases hcause
    · intro hcause
      cases hcause
    · exact exists_location_of_path (by simp)
  | none =>
    cases blame with
    | none =>
      refine ⟨⟨h.arguments, h.struct, hlength, rfl, rfl, rfl, rfl, fun _ => Iff.rfl, ?_⟩, ?_⟩
      · intro _ k f path _
        simp [counterExample]
      · exact exists_location_of_path (by simp)
    | some b =>
      obtain ⟨f, hf, hplain⟩ := exists_field_of_blame h hblame
      have hwithin : Blame.within fields b = (0, .field f.1 :: b.2) := by
        rw [Blame.within, Path.within_of_getElem? hf]
      refine ⟨⟨h.arguments, h.struct, hlength, rfl, rfl, rfl, rfl, ?_, ?_⟩, ?_⟩
      · simp [counterExample]
      · intro _ k g path hg
        simp only [counterExample, Option.isSome_none, Bool.false_eq_true, if_false,
          Option.map_some, hwithin, Option.getD_some, Option.some.injEq, List.cons.injEq,
          Segment.field.injEq, Int.natCast_zero, true_and, Int.natCast_inj]
        constructor
        · rintro ⟨hname, hpath⟩
          -- names do not repeat, so the name tells which argument it was
          exact ⟨eq_of_name_eq h.names hf hg hname, hpath⟩
        · rintro ⟨rfl, hpath⟩
          exact ⟨congrArg Prod.fst (Option.some.inj (hf.symm.trans hg)), hpath⟩
      · refine exists_location_of_path fun b' hb' => ?_
        obtain rfl : Blame.within fields b = b' := Option.some.inj hb'
        rw [hwithin]
        exact Path.isNameOrInteger_of_isPlain (by simpa [Segment.isPlain] using hplain)

end

/-- A trial of the fields and one of the struct come to the same. -/
theorem trial_within (h : i.Within fields j) (hf : ∀ f ∈ fields, ¬ f.2.HasFunction)
    {found : Option (CounterExample Error)} (ho : (r.trial i index seed).outcome = .ok found) :
    ∃ found', (r.trial j index seed).outcome = .ok found' ∧
      Option.Rel (CounterExample.Within fields) found found' ∧
      ∀ c', found' = some c' → ∃ place, c'.location = .ok place := by
  have htried := r.tried_trial i index seed
  generalize r.trial i index seed = told at htried ho
  cases htried with
  | fault hfault => cases hfault.symm.trans ho
  | held hvalues hp =>
    obtain rfl := Except.ok.inj ho
    have hp' := h.asks.holds (length_of_replay_within h hf hvalues) hp
    refine ⟨none, ?_, .none, nofun⟩
    rw [trial_of_holds (replay_within h hf hvalues) hp']
  | falsified hvalues hcause hblame =>
    obtain rfl := Except.ok.inj ho
    have hlength := length_of_replay_within h hf hvalues
    have hblame' := outcome_blame_within h hlength hblame
    obtain ⟨hwithin, hplace⟩ := counterExample_within h index hlength hblame
    refine ⟨some _, ?_, .some hwithin, fun c' hc' => Option.some.inj hc' ▸ hplace⟩
    rw [trial_of_falsified (replay_within h hf hvalues) (h.asks.falsified hlength hcause),
      Run.outcome_after, Run.bind_of_ok hblame']
    rfl

/-- So do successive trials, which take the same seeds. -/
theorem trials_within (h : i.Within fields j) (hf : ∀ f ∈ fields, ¬ f.2.HasFunction)
    {left : Nat} {source : Twister} {found : Option (CounterExample Error)}
    (ho : (r.trials i left index source).1.outcome = .ok found) :
    (r.trials j left index source).2 = (r.trials i left index source).2 ∧
      ∃ found', (r.trials j left index source).1.outcome = .ok found' ∧
        Option.Rel (CounterExample.Within fields) found found' ∧
        ∀ c', found' = some c' → ∃ place, c'.location = .ok place := by
  induction left generalizing index source with
  | zero =>
    obtain rfl := Except.ok.inj ho
    exact ⟨rfl, none, rfl, .none, nofun⟩
  | succ left ih =>
    -- the seed is taken before the trial, so the sources agree whatever it comes to
    rw [trials_succ] at ho ⊢
    rw [trials_succ]
    rcases htrial : (r.trial i index (source.trialSeed 0)).outcome with fault | first
    · simp only [htrial] at ho
      cases ho
    · obtain ⟨first', htrial', hfirst, hplace⟩ := trial_within h hf htrial
      cases hfirst with
      | none =>
        simp only [htrial] at ho
        simp only [htrial']
        exact ih ho
      | some hc =>
        simp only [htrial] at ho
        simp only [htrial']
        obtain rfl := Except.ok.inj ho
        exact ⟨trivial, _, rfl, .some hc, hplace⟩

end Runner

/-! ## Checks -/

/-- Refusals for the same function, seen from its field and from the struct. -/
inductive Error.Within (fields : List (String × Descriptor)) : Error → Error → Prop
  | unsupported {f} (hf : f ∈ fields) (message message' : String) (path : Path) :
    Within fields (.unsupported message path) (.unsupported message' (.field f.1 :: path))

/-- Reports that agree, one on several arguments and one on a struct of them. -/
structure Report.Within (fields : List (String × Descriptor)) (report report' : Report) : Prop where
  status : report'.status = report.status
  trialsRequested : report'.trialsRequested = report.trialsRequested
  trialsRun : report'.trialsRun = report.trialsRun
  seed : report'.seed = report.seed
  counterexample :
    Option.Rel (CounterExample.Within fields) report.counterexample report'.counterexample
  error : Option.Rel (Error.Within fields) report.error report'.error

/-- Checks that are refused alike, or end with reports that agree. -/
inductive Report.EndWithin (fields : List (String × Descriptor)) :
    Except Fault Report → Except Fault Report → Prop
  | refused (error : Error) : EndWithin fields (.error (.of error)) (.error (.of error))
  | reported {report report'} (h : report.Within fields report') :
    EndWithin fields (.ok report) (.ok report')

namespace Runner

variable {r : Runner} {i j : Invariant} {fields : List (String × Descriptor)}

/-- The first function of the arguments is the first of the struct. -/
theorem firstFieldFunction?_within (fields : List (String × Descriptor)) :
    obstacle? (fields.map (·.2)) = none ∧ Descriptor.firstFieldFunction? fields = none ∨
      ∃ f ∈ fields, ∃ message path g,
        obstacle? (fields.map (·.2)) = some (.unsupported message path) ∧
          Descriptor.firstFieldFunction? fields = some (.field f.1 :: path, g) := by
  induction fields with
  | nil => exact .inl ⟨rfl, rfl⟩
  | cons f fields ih =>
    unfold obstacle? at ih ⊢
    rw [List.map_cons, List.findSome?_cons, Descriptor.firstFieldFunction?]
    rcases hfirst : f.2.firstFunction? with _ | ⟨path, g⟩
    · have hnone := (Descriptor.firstFunction?_eq_none_iff f.2).mp hfirst
      rw [Descriptor.ensureGenerable_of_not_hasFunction hnone]
      rcases ih with hrest | ⟨e, he, hrest⟩
      · exact .inl hrest
      · exact .inr ⟨e, List.mem_cons_of_mem f he, hrest⟩
    · obtain ⟨message, hrefused⟩ := Descriptor.ensureGenerable_of_firstFunction? hfirst
      rw [hrefused]
      exact .inr ⟨f, List.mem_cons_self, message, path, g, rfl, rfl⟩

/-- If the arguments cannot be drawn, the struct cannot be for the same function. -/
theorem obstacle?_within (fields : List (String × Descriptor)) :
    Option.Rel (Error.Within fields) (obstacle? (fields.map (·.2)))
      (obstacle? [.struct none fields]) := by
  rcases firstFieldFunction?_within fields with ⟨hi, hj⟩ | ⟨f, hf, message, path, g, hi, hj⟩
  · have hstruct : (Descriptor.struct none fields).firstFunction? = none := by
      rw [Descriptor.firstFunction?, hj]
    rw [hi, obstacle?, List.findSome?_cons, Descriptor.ensureGenerable, hstruct]
    exact .none
  · have hstruct : (Descriptor.struct none fields).firstFunction? =
        some (.field f.1 :: path, g) := by
      rw [Descriptor.firstFunction?, hj]
    obtain ⟨message', hrefused⟩ := Descriptor.ensureGenerable_of_firstFunction? hstruct
    rw [hi, obstacle?, List.findSome?_cons, hrefused]
    exact .some (.unsupported hf message message' path)

/-- Trials that agree are reported alike. -/
theorem report_within (hbudget : j.budget = i.budget) {found found' : Option (CounterExample Error)}
    (hfound : Option.Rel (CounterExample.Within fields) found found')
    (hplace : ∀ c', found' = some c' → ∃ place, c'.location = .ok place) {report : Report}
    (ho : (r.report i found).outcome = .ok report) :
    ∃ report', (r.report j found').outcome = .ok report' ∧ report.Within fields report' := by
  have hbudget : (j.budget : Int) = i.budget := congrArg Nat.cast hbudget
  cases hfound with
  | none =>
    obtain rfl := Except.ok.inj ho
    exact ⟨_, rfl, rfl, hbudget, hbudget, rfl, .none, .none⟩
  | @some c c' hc =>
    obtain ⟨place, hplace⟩ := hplace c' rfl
    obtain ⟨event, hevent⟩ := r.report_some j hplace
    rcases hlocation : c.location with e | place
    · rw [r.report_error i hlocation] at ho
      cases ho
    · obtain ⟨event', hevent'⟩ := r.report_some i hlocation
      rw [hevent'] at ho
      obtain rfl := Except.ok.inj ho
      rw [hevent]
      exact ⟨_, rfl, rfl, hbudget, hc.trial, rfl, .some hc, .none⟩

/-- A check of the fields and one of the struct report alike. -/
theorem check_within (h : i.Within fields j) {report : Report}
    (ho : (check i r).1.outcome = .ok report) :
    (check j r).2 = (check i r).2 ∧
      ∃ report', (check j r).1.outcome = .ok report' ∧ report.Within fields report' := by
  have hobstacle := obstacle?_within fields
  rw [← h.arguments, ← h.struct] at hobstacle
  generalize hi : obstacle? i.descriptors = e at hobstacle
  generalize hj : obstacle? j.descriptors = e' at hobstacle
  cases hobstacle with
  | none =>
    have hfields : ∀ f ∈ fields, ¬ f.2.HasFunction := fun f hf =>
      obstacle?_eq_none_iff.mp hi f.2 (h.arguments ▸ List.mem_map_of_mem hf)
    rw [check_of_generable hi] at ho ⊢
    rw [check_of_generable hj, h.budget]
    obtain ⟨found, hfound, hreport⟩ := Run.outcome_bind_ok.mp ho
    obtain ⟨hsource, found', hfound', hrel, hplace⟩ := trials_within h hfields hfound
    refine ⟨by rw [hsource], ?_⟩
    rw [Run.bind_of_ok hfound', Run.outcome_after]
    exact report_within h.budget hrel hplace hreport
  | some he =>
    rw [check_of_obstacle hi] at ho ⊢
    obtain rfl := Except.ok.inj ho
    rw [check_of_obstacle hj]
    exact ⟨rfl, _, rfl, rfl, congrArg Nat.cast h.budget, rfl, rfl, .none, .some he⟩

end Runner

/-! ## Declarations -/

/-- Fields written out one after the other make the struct of them. -/
theorem Factory.call_struct_fields {fields : List (String × Descriptor)}
    (hnames : (fields.map (·.1)).Nodup) (hnonempty : ∀ f ∈ fields, f.1 ≠ "") :
    Factory.struct.call [.tuple (fields.map fun f => .tuple [.str f.1, .descriptor f.2])] [] =
      .ok (.struct none fields) := by
  have hitems : ∀ items, Request.listedItems (.tuple items) [] = .ok items := fun items =>
    congrArg Except.ok (List.append_nil items)
  have heach : List.Forall₂ Descriptor.IsField
      (fields.map fun f => .tuple [.str f.1, .descriptor f.2]) fields :=
    List.forall₂_map_left_iff.mpr (List.forall₂_same.mpr fun _ _ => rfl)
  rw [Factory.call_of_request (r := .listed _ []) rfl]
  exact Request.build_eq_ok.mpr (.listed (hitems _) ⟨heach, hnonempty, hnames⟩)

namespace Runner

section

variable {fields : List (String × Descriptor)} {D D' : Declaration} {f g : Callable}
variable {predicate : Callable → Predicate}
variable (hnames : (fields.map (·.1)).Nodup) (hwf : ∀ f ∈ fields, f.2.WellFormed)
variable (hD : Declaration.descriptorList D.descriptors = .ok (fields.map (·.2)))
variable (hD' : Declaration.descriptorList D'.descriptors = .ok [.struct none fields])
variable (htrials : D'.trials = D.trials)
variable (hf : D.predicate = .function f) (hg : D'.predicate = .function g)
variable (hp : (predicate f).IsOrdinary) (hq : (predicate f).AsksFields fields (predicate g))

include hnames hwf hD hD' htrials hf hg hp hq

/-- Both declarations are refused for their budget, or they state the same. -/
theorem invariant_within (defaultTrials : Int) :
    (∃ error, D.invariant predicate defaultTrials = .error error ∧
      D'.invariant predicate defaultTrials = .error error) ∨
    ∃ i j, D.invariant predicate defaultTrials = .ok i ∧
      D'.invariant predicate defaultTrials = .ok j ∧ i.Within fields j := by
  unfold Declaration.invariant
  simp only [hD, hD', hf, hg, htrials, Declaration.function, bind, Except.bind]
  rcases Declaration.budget defaultTrials D.trials with error | budget
  · exact .inl ⟨error, rfl, rfl⟩
  · exact .inr ⟨_, _, rfl, rfl, hnames, hwf, rfl, rfl, rfl, hp, hq⟩

/-- The declarations are refused alike, or report alike, and leave the runner the same. -/
theorem declareBy_within {r : Runner} (hdraws : (declareBy predicate D r).1.Completes) :
    (declareBy predicate D' r).2 = (declareBy predicate D r).2 ∧
      Report.EndWithin fields (declareBy predicate D r).1.outcome
        (declareBy predicate D' r).1.outcome := by
  rw [declareBy_eq] at hdraws ⊢
  rw [declareBy_eq]
  rcases invariant_within hnames hwf hD hD' htrials hf hg hp hq r.checking.defaultTrials with
    ⟨error, hi, hj⟩ | ⟨i, j, hi, hj, hwithin⟩
  · rw [hi, hj]
    exact ⟨rfl, .refused error⟩
  · rw [hi] at hdraws ⊢
    rw [hj]
    have hordinary : i.Ordinary := by
      refine ⟨?_, hwithin.predicate⟩
      rw [hwithin.arguments]
      exact List.forall_mem_map.mpr hwf
    rcases ho : (check i r).1.outcome with fault | report
    · obtain rfl := check_error hordinary ho
      exact absurd ho hdraws
    · obtain ⟨hrunner, report', ho', hreport⟩ := check_within hwithin ho
      refine ⟨hrunner, ?_⟩
      rw [ho']
      exact .reported hreport

end

/-- Declaring arguments one by one, or one struct with a field for each, is
the same check.  Let the predicate of the struct ask that of the arguments
about its fields.  Unless a draw is given up,

1. the struct can be built;
2. the runner is left the same;
3. both declarations are refused alike, or their reports agree: in the
   status, in the trials, and in the counterexample, which has the values of
   the one as the fields of the other, and without a cause points at the same
   part of them;
4. whatever seed is replayed, what is drawn for the struct is the record of
   what is drawn for the arguments. -/
theorem declareBy_fields {fields : List (String × Descriptor)}
    (hnames : (fields.map (·.1)).Nodup) (hnonempty : ∀ f ∈ fields, f.1 ≠ "")
    (hwf : ∀ f ∈ fields, f.2.WellFormed) {D D' : Declaration}
    (hD : Declaration.descriptorList D.descriptors = .ok (fields.map (·.2)))
    (hD' : Declaration.descriptorList D'.descriptors = .ok [.struct none fields])
    (htrials : D'.trials = D.trials) {f g : Callable}
    (hf : D.predicate = .function f) (hg : D'.predicate = .function g)
    {predicate : Callable → Predicate} (hp : (predicate f).IsOrdinary)
    (hq : (predicate f).AsksFields fields (predicate g)) (r : Runner)
    (hdraws : (declareBy predicate D r).1.Completes) :
    Factory.struct.call [.tuple (fields.map fun f => .tuple [.str f.1, .descriptor f.2])] [] =
        .ok (.struct none fields) ∧
      (declareBy predicate D' r).2 = (declareBy predicate D r).2 ∧
      Report.EndWithin fields (declareBy predicate D r).1.outcome
        (declareBy predicate D' r).1.outcome ∧
      ((∀ f ∈ fields, ¬ f.2.HasFunction) → ∀ seed,
        r.replay (.tuple [.descriptor (.struct none fields)]) seed =
          (r.replay (.tuple (fields.map fun f => .descriptor f.2)) seed).map fun values =>
            [record fields values]) := by
  obtain ⟨hrunner, hend⟩ := declareBy_within hnames hwf hD hD' htrials hf hg hp hq hdraws
  refine ⟨Factory.call_struct_fields hnames hnonempty, hrunner, hend, fun hfields seed => ?_⟩
  have harguments := r.replay_eq (fields.map (·.2)) seed
  rw [List.map_map] at harguments
  calc r.replay (.tuple [.descriptor (.struct none fields)]) seed
      = r.sampling.replay [.struct none fields] seed := r.replay_eq [.struct none fields] seed
    _ = (r.sampling.replay (fields.map (·.2)) seed).map fun values => [record fields values] :=
        Sampling.replay_record hfields seed
    _ = _ := congrArg _ harguments.symm

/-- Two coins. -/
def coins : List (String × Descriptor) := [("left", .boolean none), ("right", .boolean none)]

/-- One function takes the word of the first of two coins, every other that of
the coin under the first name. -/
def coinPredicate : Callable → Predicate
  | .builtin .abs => .first
  | _ => Predicate.first.byName coins

/-- Declares two coins. -/
def coinsApart : Declaration :=
  ⟨.tuple [.descriptor (.boolean none), .descriptor (.boolean none)], .function (.builtin .abs),
    .int 3, "coins"⟩

/-- Declares one struct of two coins. -/
def coinsTogether : Declaration :=
  ⟨.descriptor (.struct none coins), .function (.builtin .len), .int 3, "coins"⟩

/-- The left coin is blamed, or the field of it. -/
theorem declareBy_fields_coins :
    (declareBy coinPredicate coinsApart (ofSeed {} {} 2)).1.Completes ∧
      ∃ report report' c c',
        (declareBy coinPredicate coinsApart (ofSeed {} {} 2)).1.outcome = .ok report ∧
        (declareBy coinPredicate coinsTogether (ofSeed {} {} 2)).1.outcome = .ok report' ∧
        report.counterexample = some c ∧ report'.counterexample = some c' ∧
        c'.trialSeed = c.trialSeed ∧ c'.values = [record coins c.values] ∧
        c.argument = some 0 ∧ c.path = [] ∧ c'.argument = some 0 ∧ c'.path = [.field "left"] := by
  have hnames : (coins.map (·.1)).Nodup := by simp [coins]
  have hnonempty : ∀ f ∈ coins, f.1 ≠ "" := by simp [coins]
  have hwf : ∀ f ∈ coins, f.2.WellFormed := by
    simp [coins, Descriptor.WellFormed, Descriptor.NameWellFormed]
  have hi : (⟨"coins", coins.map (·.2), .first, 3⟩ : Invariant).Ordinary :=
    ⟨List.forall_mem_map.mpr hwf, Predicate.isOrdinary_first⟩
  obtain ⟨vs, ho⟩ := check_coins_two hi rfl rfl
    (List.forall_mem_singleton.mpr ⟨none, rfl⟩) (by decide)
  have hinvariant : coinsApart.invariant coinPredicate 100 =
      .ok ⟨"coins", coins.map (·.2), .first, 3⟩ := rfl
  have hdeclare : declareBy coinPredicate coinsApart (ofSeed {} {} 2) = check _ _ :=
    declareBy_of_ok hinvariant
  rw [← hdeclare] at ho
  have hdraws : (declareBy coinPredicate coinsApart (ofSeed {} {} 2)).1.Completes := by
    intro h
    cases ho.symm.trans h
  have hapart : Declaration.descriptorList coinsApart.descriptors = .ok (coins.map (·.2)) := rfl
  have htogether : Declaration.descriptorList coinsTogether.descriptors =
      .ok [.struct none coins] := rfl
  obtain ⟨-, -, hend, -⟩ := declareBy_fields hnames hnonempty hwf hapart htogether rfl rfl rfl
    Predicate.isOrdinary_first (Predicate.asksFields_byName hnames) (ofSeed {} {} 2) hdraws
  refine ⟨hdraws, ?_⟩
  rw [ho] at hend ⊢
  generalize (declareBy coinPredicate coinsTogether (ofSeed {} {} 2)).1.outcome = together at hend
  cases hend with
  | @reported report report' h =>
    have hrel := h.counterexample
    generalize hfound' : report'.counterexample = found' at hrel
    cases hrel with
    | @some c c' hc =>
      obtain ⟨hargument, hpath⟩ := (hc.blamed rfl 0 ("left", .boolean none) [] rfl).mpr ⟨rfl, rfl⟩
      exact ⟨_, report', _, c', rfl, rfl, rfl, hfound', hc.trialSeed, hc.values, rfl, rfl,
        hargument, hpath⟩

end Runner

end Conformance
