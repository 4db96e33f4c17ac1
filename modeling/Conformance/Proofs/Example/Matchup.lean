import Conformance.Proofs.Example.Damage
import Conformance.Proofs.Generate.Record
import Conformance.Proofs.Generate.Redraw
import Conformance.Proofs.Invariant.Blame
import Conformance.Proofs.Random.Packed

/-!
# Conformance.Proofs.Example.Matchup

Matchups of two fighters that are drawn, and what is reported on an invariant
of them.

That the damage is never negative holds of every matchup, so it is held
(`report_ge_zero`).  That there is damage fails exactly for a matchup that is
`Blocked`: the armor of the defender is no less than the attack of the
attacker.  It is violated exactly if a blocked matchup is drawn
(`report_gt_zero`).  No other part of a matchup matters to it
(`irrelevant_of_beside`), so no other part is blamed
(`place_of_counterexample`).

Whether a fighter has a title depends on a double.  All else about the
matchup of a seed can be computed (`matchupYields`).
-/

namespace Conformance

namespace Descriptor

/-- What is drawn for a part and put in its place leaves every path beside it
as it was. -/
theorem follow_put_of_drawn {s : Sampling} {good : Float → Prop} {path : Path} {d e : Descriptor}
    {v w : Value} {t t' : Twister} (hd : d.WellFormed) (hplain : path.all Segment.isPlain)
    (he : d.descriptorAt path = .ok e) (hcanonical : d.Canonical s good v) (hv : d.Admits v)
    (hw : (generate s e).runFrom t = (.ok w, t')) :
    (∀ other, ¬ other.IsInitial path → ¬ path.IsInitial other →
      (v.put path w).follow other = v.follow other) ∧
    (e.Admits w → d.Admits (v.put path w)) := by
  obtain ⟨rebuild, hupdated⟩ := exists_updated (s := s) path hd hplain he hv
  have hput := (generateAt_eq_put path hd hplain he hcanonical).symm.trans hupdated.redraw
  have hrun := congrArg (fun draw => (draw.runFrom t).1) hput
  simp only [Draw.runFrom_bind, hw] at hrun
  have hsame : v.put path w = rebuild w := Except.ok.inj hrun
  rw [hsame]
  exact ⟨hupdated.beside w, hupdated.admits w⟩

end Descriptor

namespace Example.Battle

/-! ## Drawn fighters -/

/-- Where the attack of a fighter stands. -/
def atkPath : Path := [.field "stats", .field "atk"]

/-- Where the armor of a fighter stands. -/
def armorPath : Path := [.field "stats", .field "def_"]

/-- The armor of the defender is no less than the attack of the attacker. -/
def Blocked (attacker defender : Value) : Prop :=
  ∃ atk armor : Int, attacker.follow atkPath = .int atk ∧ defender.follow armorPath = .int armor ∧
    atk ≤ armor

/-- No double is drawn for a fighter, so what is drawn conforms. -/
theorem admits_of_canonical {s : Sampling} {good : Float → Prop} {v : Value}
    (h : fighter.Canonical s good v) : fighter.Admits v :=
  Descriptor.admits_of_canonical (s := s) fighter wellFormed_fighter v h

/-- The leaves of a fighter. -/
theorem leafPaths_fighter : fighter.leafPaths =
    [(atkPath, .ofInteger .uint8), (armorPath, .ofInteger .uint8),
      ([.field "stats", .field "hp"], .ofInteger .uint16), ([.field "element"], element),
      ([.field "title"], .maybe none element)] := rfl

/-- Attack and armor stand at their paths. -/
theorem follow_of_describes {f : Fighter} {v : Value} (h : Describes f v) :
    v.follow atkPath = .int f.atk ∧ v.follow armorPath = .int f.armor := by
  cases h with
  | dict hstats hatk harmor =>
    unfold atkPath armorPath
    rw [Value.follow_dict, hstats, Value.follow_dict, hstats]
    exact ⟨congrArg (·.getD .missing) hatk, congrArg (·.getD .missing) harmor⟩

/-- A hit is blocked if the attack does not exceed the armor. -/
theorem blocked_iff {a d : Fighter} {v w : Value} (ha : Describes a v) (hd : Describes d w) :
    Blocked v w ↔ a.atk ≤ d.armor := by
  unfold Blocked
  rw [(follow_of_describes ha).1, (follow_of_describes hd).2]
  constructor
  · rintro ⟨_, _, ⟨⟩, ⟨⟩, h⟩
    exact h
  · exact fun h => ⟨_, _, rfl, rfl, h⟩

section

variable {f : Callable} {name : String} {c : Value.Comparison} {v w : Value}

/-- The damage is not negative, whoever fights. -/
theorem holds_ge_zero (hf : checkedLibrary.definition? f = some (.body name none (damageIs .ge)))
    (hv : fighter.Admits v) (hw : fighter.Admits w) (more : List Value) :
    (checkedLibrary.predicate f).holds (v :: w :: more) = true := by
  obtain ⟨a, ha⟩ := exists_describes hv
  obtain ⟨d, hd⟩ := exists_describes hw
  unfold Predicate.holds
  rw [outcome_predicate_of_fighters hf hv hw ha hd more, holds_ge]
  exact decide_eq_true (a.hit_mem d).1

/-- There is damage unless the hit is blocked. -/
theorem holds_gt_zero (hf : checkedLibrary.definition? f = some (.body name none (damageIs .gt)))
    (hv : fighter.Admits v) (hw : fighter.Admits w) (more : List Value) :
    (checkedLibrary.predicate f).holds (v :: w :: more) = true ↔ ¬ Blocked v w := by
  obtain ⟨a, ha⟩ := exists_describes hv
  obtain ⟨d, hd⟩ := exists_describes hw
  unfold Predicate.holds
  rw [outcome_predicate_of_fighters hf hv hw ha hd more, holds_gt, blocked_iff ha hd, Int.not_le,
    ← a.hit_pos_iff d]
  exact decide_eq_true_iff

end

/-! ## Redrawn fighters -/

/-- Paths to different parts of a fighter do not begin with each other. -/
theorem beside_of_ne {path other : Path} {e : Descriptor} (he : (path, e) ∈ fighter.leafPaths)
    (hother : other = atkPath ∨ other = armorPath) (hne : path ≠ other) :
    ¬ other.IsInitial path ∧ ¬ path.IsInitial other := by
  rw [leafPaths_fighter] at he
  simp only [List.mem_cons, Prod.mk.injEq, List.not_mem_nil, or_false] at he
  rcases hother with rfl | rfl
  · rcases he with ⟨rfl, -⟩ | ⟨rfl, -⟩ | ⟨rfl, -⟩ | ⟨rfl, -⟩ | ⟨rfl, -⟩
    · exact absurd rfl hne
    all_goals decide
  · rcases he with ⟨rfl, -⟩ | ⟨rfl, -⟩ | ⟨rfl, -⟩ | ⟨rfl, -⟩ | ⟨rfl, -⟩
    · decide
    · exact absurd rfl hne
    all_goals decide

/-- A fighter of which a part is drawn anew is a fighter, with the same attack
and the same armor unless the part is that. -/
theorem redrawn_fighter {s : Sampling} {good : Float → Prop} {path : Path} {e : Descriptor}
    {v u : Value} {t t' : Twister} (hv : fighter.Canonical s good v)
    (he : (path, e) ∈ fighter.leafPaths)
    (hu : (Descriptor.generate s e).runFrom t = (.ok u, t')) :
    fighter.Admits (v.put path u) ∧
      ∀ other, other = atkPath ∨ other = armorPath → path ≠ other →
        (v.put path u).follow other = v.follow other := by
  obtain ⟨hat, hplain⟩ :=
    Descriptor.descriptorAt_of_mem_leafPaths fighter wellFormed_fighter path e he
  obtain ⟨hbeside, hadmits⟩ := Descriptor.follow_put_of_drawn wellFormed_fighter hplain hat hv
    (admits_of_canonical hv) hu
  refine ⟨hadmits ?_, fun other hother hne => ?_⟩
  · have hf : ¬ e.HasFunction := fun hfunction =>
      not_hasFunction_fighter (Descriptor.hasFunction_of_descriptorAt path hplain hat hfunction)
    obtain ⟨hwf, -⟩ := Descriptor.canonical_follow path wellFormed_fighter hplain hat hv
    rw [Descriptor.generate_eq_sample s hf] at hu
    have hcanonical : e.Canonical s (fun _ => True) u :=
      Descriptor.canonical_of_sample e t u t' hu fun _ _ => trivial
    rw [leafPaths_fighter] at he
    simp only [List.mem_cons, Prod.mk.injEq, List.not_mem_nil, or_false] at he
    rcases he with ⟨-, rfl⟩ | ⟨-, rfl⟩ | ⟨-, rfl⟩ | ⟨-, rfl⟩ | ⟨-, rfl⟩
    all_goals exact Descriptor.admits_of_canonical (s := s) _ hwf u hcanonical
  · obtain ⟨hinitial, hextends⟩ := beside_of_ne he hother hne
    exact hbeside other hinitial hextends

/-- The word of the second predicate depends on the attack of the attacker and
the armor of the defender alone. -/
theorem irrelevant_of_beside {f : Callable} {name : String} {s : Sampling} {good : Float → Prop}
    {v w : Value} {leaf : Leaf}
    (hf : checkedLibrary.definition? f = some (.body name none (damageIs .gt)))
    (hv : fighter.Canonical s good v) (hw : fighter.Canonical s good w)
    (hleaf : leaf ∈ Leaf.all [fighter, fighter] [v, w])
    (hatk : ¬ (leaf.argument = 0 ∧ leaf.path = atkPath))
    (harmor : ¬ (leaf.argument = 1 ∧ leaf.path = armorPath)) :
    leaf.Irrelevant s (checkedLibrary.predicate f) [v, w] := by
  intro e u t t' he hu
  obtain ⟨hd, hvalue, -⟩ := Leaf.mem_all.mp hleaf
  obtain ⟨n, d, x, path⟩ := leaf
  have hva := admits_of_canonical hv
  have hwa := admits_of_canonical hw
  rcases n with _ | _ | n
  · obtain rfl : fighter = d := Option.some.inj hd
    obtain rfl : v = x := Option.some.inj hvalue
    obtain ⟨hadmits, hfollow⟩ := redrawn_fighter hv he hu
    have hsame := hfollow atkPath (.inl rfl) fun h => hatk ⟨rfl, h⟩
    show (checkedLibrary.predicate f).holds [v.put path u, w] = _
    rw [Bool.eq_iff_iff, holds_gt_zero hf hadmits hwa, holds_gt_zero hf hva hwa, Blocked, hsame]
    rfl
  · obtain rfl : fighter = d := Option.some.inj hd
    obtain rfl : w = x := Option.some.inj hvalue
    obtain ⟨hadmits, hfollow⟩ := redrawn_fighter hw he hu
    have hsame := hfollow armorPath (.inr rfl) fun h => harmor ⟨rfl, h⟩
    show (checkedLibrary.predicate f).holds [v, w.put path u] = _
    rw [Bool.eq_iff_iff, holds_gt_zero hf hva hadmits, holds_gt_zero hf hva hwa, Blocked, hsame]
    rfl
  · cases hd

/-! ## The two invariants -/

/-- An invariant of two fighters. -/
def invariantOf (label : String) (f : Callable) (budget : Nat) : Invariant :=
  ⟨label, [fighter, fighter], checkedLibrary.predicate f, budget⟩

/-- What is drawn for a matchup is two fighters. -/
theorem exists_fighters_of_replay {s : Sampling} {seed : Int} {values : List Value}
    (h : s.replay [fighter, fighter] seed = .ok values) :
    ∃ v w, values = [v, w] ∧ fighter.Canonical s (fun _ => True) v ∧
      fighter.Canonical s (fun _ => True) w := by
  have hf : ∀ d ∈ [fighter, fighter], ¬ d.HasFunction := by
    simp [not_hasFunction_fighter]
  cases Sampling.canonical_of_replay hf h with
  | cons hv hrest =>
    cases hrest with
    | cons hw hrest =>
      cases hrest
      exact ⟨_, _, rfl, hv, hw⟩

section

variable {f : Callable} {name label : String} {c : Value.Comparison} {budget : Nat} {r : Runner}
variable {report : Report}

/-- An invariant of two fighters is ordinary. -/
theorem ordinary_invariantOf
    (hf : checkedLibrary.definition? f = some (.body name none (damageIs c))) :
    (invariantOf label f budget).Ordinary where
  wellFormed := by simp [invariantOf, wellFormed_fighter]
  predicate := isOrdinary_predicate hf

/-- Fighters can be drawn, so it is never aborted. -/
theorem not_hasFunction_invariantOf :
    ∀ d ∈ (invariantOf label f budget).descriptors, ¬ d.HasFunction := by
  simp [invariantOf, not_hasFunction_fighter]

/-- The damage is never negative, so every trial is run. -/
theorem report_ge_zero (hf : checkedLibrary.definition? f = some (.body name none (damageIs .ge)))
    (h : (Runner.check (invariantOf label f budget) r).1.outcome = .ok report) :
    report = ⟨label, .held, budget, budget, r.seed, none, none⟩ := by
  cases Runner.verdict_of_check h with
  | aborted hfunction =>
    obtain ⟨d, hd, hfunction⟩ := hfunction
    exact absurd hfunction (not_hasFunction_invariantOf d hd)
  | held => rfl
  | violated blame hnone hk hbefore hvalues hcause =>
    obtain ⟨v, w, rfl, hv, hw⟩ := exists_fighters_of_replay hvalues
    have hfalse := hcause.not_holds
    have hholds := holds_ge_zero hf (admits_of_canonical hv) (admits_of_canonical hw) []
    cases hholds.symm.trans hfalse

/-- A tuple that falsifies the second predicate is a blocked hit; the predicate
does not raise. -/
theorem blocked_of_falsified {v w : Value} {cause : Option Error}
    (hf : checkedLibrary.definition? f = some (.body name none (damageIs .gt)))
    (hv : fighter.Admits v) (hw : fighter.Admits w)
    (h : (checkedLibrary.predicate f).Falsified [v, w] cause) : cause = none ∧ Blocked v w := by
  refine ⟨?_, ?_⟩
  · obtain ⟨a, ha⟩ := exists_describes hv
    obtain ⟨d, hd⟩ := exists_describes hw
    have hreturns := outcome_predicate_of_fighters hf hv hw ha hd []
    cases h with
    | false => rfl
    | raised hraised => cases hreturns.symm.trans hraised
  · by_contra hclear
    cases h.not_holds.symm.trans ((holds_gt_zero hf hv hw []).mpr hclear)

/-- A blocked hit is reported exactly if one is drawn, and what is reported is
a blocked hit that was drawn. -/
theorem report_gt_zero (hf : checkedLibrary.definition? f = some (.body name none (damageIs .gt)))
    (h : (Runner.check (invariantOf label f budget) r).1.outcome = .ok report) :
    let blockedAt (j : Nat) (v w : Value) :=
      r.sampling.replay [fighter, fighter] (r.source.trialSeed j) = .ok [v, w] ∧ Blocked v w
    (report.status = .violated ↔ ∃ j < budget, ∃ v w, blockedAt j v w) ∧
      (report.status ≠ .violated → report = ⟨label, .held, budget, budget, r.seed, none, none⟩) ∧
      (report.status = .violated → ∃ x, report.counterexample = some x ∧
        ∃ k < budget, ∃ v w, x.trial = (k + 1 : Nat) ∧ x.values = [v, w] ∧ blockedAt k v w) := by
  intro blockedAt
  cases Runner.verdict_of_check h with
  | aborted hfunction =>
    obtain ⟨d, hd, hfunction⟩ := hfunction
    exact absurd hfunction (not_hasFunction_invariantOf d hd)
  | held hnone hall =>
    refine ⟨iff_of_false Status.noConfusion ?_, fun _ => rfl, Status.noConfusion⟩
    rintro ⟨j, hj, v, w, hdrawn, hblocked⟩
    obtain ⟨values, hvalues, hholds⟩ := hall j hj
    obtain rfl : [v, w] = values := Except.ok.inj (hdrawn.symm.trans hvalues)
    obtain ⟨v', w', heq, hv, hw⟩ := exists_fighters_of_replay hdrawn
    obtain ⟨rfl, rfl⟩ : v = v' ∧ w = w' := by simpa using heq
    have hclear := holds_gt_zero hf (admits_of_canonical hv) (admits_of_canonical hw) []
    exact hclear.mp hholds hblocked
  | @violated k values cause blame hnone hk hbefore hvalues hcause =>
    obtain ⟨v, w, rfl, hv, hw⟩ := exists_fighters_of_replay hvalues
    obtain ⟨-, hblocked⟩ :=
      blocked_of_falsified hf (admits_of_canonical hv) (admits_of_canonical hw) hcause
    exact ⟨iff_of_true rfl ⟨k, hk, v, w, hvalues, hblocked⟩, fun h => absurd rfl h,
      fun _ => ⟨_, rfl, k, hk, v, w, rfl, rfl, hvalues, hblocked⟩⟩

/-- The counterexample has no cause; to blame is the attack of the attacker, the
armor of the defender, or nothing. -/
theorem place_of_counterexample {x : CounterExample Error}
    (hf : checkedLibrary.definition? f = some (.body name none (damageIs .gt)))
    (h : (Runner.check (invariantOf label f budget) r).1.outcome = .ok report)
    (hx : report.counterexample = some x) :
    x.cause = none ∧ (x.argument = none ∧ x.path = [] ∨ x.argument = some 0 ∧ x.path = atkPath ∨
      x.argument = some 1 ∧ x.path = armorPath) := by
  obtain ⟨hnone, values, index, seed, cause, blame, rfl, hvalues, hcause, hblame⟩ :=
    Runner.exists_blame_of_check h hx
  obtain ⟨v, w, rfl, hv, hw⟩ := exists_fighters_of_replay hvalues
  obtain ⟨rfl, -⟩ :=
    blocked_of_falsified hf (admits_of_canonical hv) (admits_of_canonical hw) hcause
  refine ⟨rfl, ?_⟩
  cases blame with
  | none => exact .inl ⟨rfl, rfl⟩
  | some found =>
    right
    rcases localize_ok.mp hblame with ⟨-, hfound⟩ | ⟨-, t', hsearch⟩
    · cases hfound
    · have hordinary : (invariantOf label f budget).Ordinary := ordinary_invariantOf hf
      obtain ⟨leaf, rfl, hculprit⟩ := Leaf.culprit_of_firstToHold hordinary.wellFormed
        (Sampling.canonical_of_replay hnone hvalues) hsearch
      have hrelevant := hculprit.not_irrelevant hcause.not_holds
      by_contra hneither
      push Not at hneither
      refine hrelevant (irrelevant_of_beside hf hv hw hculprit.mem_all ?_ ?_)
      · rintro ⟨hargument, hpath⟩
        exact hneither.1 (by simp [Runner.counterExample, hargument]) hpath
      · rintro ⟨hargument, hpath⟩
        exact hneither.2 (by simp [Runner.counterExample, hargument]) hpath

end

/-! ## The matchup of a seed -/

/-- Whether the draw of a fighter comes to its end, with a value and a source
that pass.  Whether there is a title depends on a double, so both have to pass. -/
def fighterYields (s : Sampling) (p : Value → Twister → Bool) (t : Twister) : Bool :=
  let known := (Descriptor.sampleFields s [("stats", stats), ("element", element)]).runFrom t
  let untitled := (Draw.unit.runFrom known.2).2
  let titled := (Descriptor.sample s element).runFrom untitled
  known.1.toOption.any fun entries => titled.1.toOption.any fun title =>
    p (.dict (entries ++ [(.str "title", .nothing)])) untitled &&
      p (.dict (entries ++ [(.str "title", .just title)])) titled.2

/-- The title is drawn last. -/
theorem fighter_fields_eq :
    [("stats", stats), ("element", element), ("title", .maybe none element)] =
      [("stats", stats), ("element", element)] ++ [("title", .maybe none element)] := rfl

/-- A title is drawn or not. -/
theorem runFrom_title {s : Sampling} {t : Twister} {title : Value}
    (h : ((Descriptor.sample s element).runFrom (Draw.unit.runFrom t).2).1 = .ok title) :
    (Descriptor.sample s (.maybe none element)).runFrom t =
        (.ok .nothing, (Draw.unit.runFrom t).2) ∨
      (Descriptor.sample s (.maybe none element)).runFrom t =
        (.ok (.just title), ((Descriptor.sample s element).runFrom (Draw.unit.runFrom t).2).2) := by
  rw [Descriptor.sample, Draw.runFrom_bind]
  rcases hunit : Draw.unit.runFrom t with ⟨_ | u, t'⟩
  · cases hunit
  · rw [hunit] at h
    simp only
    split
    · exact .inl rfl
    · right
      rw [Draw.runFrom_bind, show (Descriptor.sample s element).runFrom t' = (.ok title, _) from
        Prod.ext h rfl]
      rfl

/-- If the draw of a fighter yields one that passes, such a fighter is drawn. -/
theorem exists_of_fighterYields {s : Sampling} {p : Value → Twister → Bool} {t : Twister}
    (h : fighterYields s p t = true) :
    ∃ v t', (Descriptor.sample s fighter).runFrom t = (.ok v, t') ∧ p v t' = true := by
  obtain ⟨entries, hentries, h⟩ := exists_of_toOption h
  obtain ⟨title, htitle, h⟩ := exists_of_toOption h
  obtain ⟨huntitled, htitled⟩ := Bool.and_eq_true_iff.mp h
  have hsample (rest : Value) (t' : Twister)
      (hrest : (Descriptor.sample s (.maybe none element)).runFrom
        ((Descriptor.sampleFields s [("stats", stats), ("element", element)]).runFrom t).2 =
          (.ok rest, t')) :
      (Descriptor.sample s fighter).runFrom t =
        (.ok (.dict (entries ++ [(.str "title", rest)])), t') := by
    rw [fighter, fighter_fields_eq, Descriptor.sample, Descriptor.sampleFields_append,
      Draw.runFrom_bind_ok]
    refine ⟨entries ++ [(.str "title", rest)], t', ?_, rfl⟩
    refine Draw.runFrom_bind_ok.mpr ⟨entries, _, Prod.ext hentries rfl, ?_⟩
    refine Draw.runFrom_bind_ok.mpr ⟨[(.str "title", rest)], t', ?_, rfl⟩
    exact Draw.runFrom_bind_ok.mpr ⟨rest, t', hrest, rfl⟩
  rcases runFrom_title htitle with h | h
  · exact ⟨_, _, hsample .nothing _ h, huntitled⟩
  · exact ⟨_, _, hsample (.just title) _ h, htitled⟩

/-- A struct reads if its first field does. -/
theorem reads_struct {s : Sampling} {n : Option String} {name : String} {d : Descriptor}
    (h : (Descriptor.sample s d).Reads) (fields : List (String × Descriptor)) :
    (Descriptor.sample s (.struct n ((name, d) :: fields))).Reads := by
  rw [Descriptor.sample, Descriptor.sampleFields]
  exact (h.bind _).bind _

/-- The first thing to be drawn for a fighter is the attack. -/
theorem reads_fighter (s : Sampling) : (Descriptor.sample s fighter).Reads := by
  refine reads_struct (reads_struct ?_ _) _
  rw [Descriptor.ofInteger, Descriptor.sample]
  exact (Draw.reads_between _ _ _).bind _

/-- Whether a matchup is drawn from a seed and passes. -/
def matchupYields (s : Sampling) (p : Value → Value → Bool) (seed : Int) : Bool :=
  Twister.Packed.forced (Twister.Packed.ofSeed seed) fun n =>
    fighterYields s (fun v => fighterYields s fun w _ => p v w) ⟨Twister.unpack n, 0⟩

/-- If a seed yields a matchup that passes, such a matchup is replayed from it. -/
theorem exists_of_matchupYields {s : Sampling} {p : Value → Value → Bool} {seed : Int}
    (h : matchupYields s p seed = true) :
    ∃ v w, s.replay [fighter, fighter] seed = .ok [v, w] ∧ p v w = true := by
  rw [matchupYields, Twister.Packed.forced_eq, ← Twister.ready_ofSeed] at h
  obtain ⟨v, t', hv, h⟩ := exists_of_fighterYields h
  obtain ⟨w, t'', hw, h⟩ := exists_of_fighterYields h
  rw [reads_fighter s] at hv
  have hdrawn : (Descriptor.generateAll s [fighter, fighter]).runFrom (Twister.ofSeed seed) =
      (.ok [v, w], t'') := by
    simp only [Descriptor.generateAll, Descriptor.generate_eq_sample s not_hasFunction_fighter]
    exact Draw.runFrom_bind_ok.mpr ⟨v, t', hv, Draw.runFrom_bind_ok.mpr
      ⟨[w], t'', Draw.runFrom_bind_ok.mpr ⟨w, t'', hw, rfl⟩, rfl⟩⟩
  exact ⟨v, w, congrArg Prod.fst hdrawn, h⟩

/-- Whether the attack of a value does not exceed the armor of another. -/
def isBlocked (v w : Value) : Bool :=
  (v.follow atkPath).integer?.any fun atk =>
    (w.follow armorPath).integer?.any fun armor => atk ≤ armor

/-- Whether a hit is blocked can be computed. -/
theorem isBlocked_iff {v w : Value} (hv : fighter.Admits v) (hw : fighter.Admits w) :
    isBlocked v w = true ↔ Blocked v w := by
  obtain ⟨a, ha⟩ := exists_describes hv
  obtain ⟨d, hd⟩ := exists_describes hw
  rw [blocked_iff ha hd, isBlocked, (follow_of_describes ha).1, (follow_of_describes hd).2]
  exact decide_eq_true_iff

/-- Whether the first attack that the search for the part to blame draws is this. -/
def redrawYields (s : Sampling) (atk : Int) (seed : Nat) : Bool :=
  Twister.Packed.forced (Twister.Packed.ofSeed ↑(seed ^^^ redrawSalt)) fun n =>
    ((Draw.between s.patience 0 255).runFrom ⟨Twister.unpack n, 0⟩).1.toOption.any (· == atk)

/-- If a seed yields an attack, it is the first to be drawn again. -/
theorem exists_of_redrawYields {s : Sampling} {atk : Int} {seed : Nat}
    (h : redrawYields s atk seed = true) :
    ∃ t', (Draw.between s.patience 0 255).runFrom (redrawSource seed) = (.ok atk, t') := by
  rw [redrawYields, Twister.Packed.forced_eq, ← Twister.ready_ofSeed, Draw.reads_between] at h
  obtain ⟨i, hi, h⟩ := exists_of_toOption h
  obtain rfl := eq_of_beq h
  exact ⟨_, Prod.ext hi rfl⟩

section

variable {f : Callable} {name label : String} {budget : Nat} {r : Runner} {seed : Nat}

/-- Where the damage is never negative, there is nothing to be blamed. -/
theorem settled_ge_zero {values : List Value}
    (hf : checkedLibrary.definition? f = some (.body name none (damageIs .ge)))
    (hvalues : r.sampling.replay [fighter, fighter] seed = .ok values) :
    r.Settled (invariantOf label f budget) seed := by
  refine ⟨values, hvalues, fun cause hcause => ?_⟩
  obtain ⟨v, w, rfl, hv, hw⟩ := exists_fighters_of_replay hvalues
  have hholds := holds_ge_zero hf (admits_of_canonical hv) (admits_of_canonical hw) []
  cases hcause.not_holds.symm.trans hholds

/-- A blocked hit is settled if the first attack that is drawn in its place is
not blocked. -/
theorem settled_gt_zero {v w : Value} {atk : Int}
    (hf : checkedLibrary.definition? f = some (.body name none (damageIs .gt)))
    (hattempts : r.checking.localizationAttempts ≠ 0)
    (hvalues : r.sampling.replay [fighter, fighter] seed = .ok [v, w])
    (hatk : redrawYields r.sampling atk seed = true)
    (hclear : isBlocked (v.put atkPath (.int atk)) w = false) :
    r.Settled (invariantOf label f budget) seed := by
  refine ⟨[v, w], hvalues, fun cause hcause => ?_⟩
  obtain ⟨v', w', heq, hv, hw⟩ := exists_fighters_of_replay hvalues
  obtain ⟨rfl, rfl⟩ : v = v' ∧ w = w' := by simpa using heq
  have hwa := admits_of_canonical hw
  obtain ⟨rfl, -⟩ := blocked_of_falsified hf (admits_of_canonical hv) hwa hcause
  have hleaf : (atkPath, .ofInteger .uint8) ∈ fighter.leafPaths := by simp [leafPaths_fighter]
  obtain ⟨t', hdraw⟩ := exists_of_redrawYields hatk
  have hgenerate : (Descriptor.generate r.sampling (.ofInteger .uint8)).runFrom
      (redrawSource seed) = (.ok (.int atk), t') := by
    rw [Descriptor.generate_eq_sample _ (by simp [Descriptor.ofInteger, Descriptor.HasFunction]),
      Descriptor.ofInteger, Descriptor.sample]
    exact Draw.runFrom_bind_ok.mpr ⟨atk, t', hdraw, rfl⟩
  obtain ⟨hadmits, -⟩ := redrawn_fighter hv hleaf hgenerate
  have hfound : Leaf.Found r.sampling (checkedLibrary.predicate f) [v, w]
      ⟨0, fighter, v, atkPath⟩ (redrawSource seed) t' := by
    refine ⟨[v.put atkPath (.int atk), w], ?_, ?_⟩
    · rw [Leaf.redraw_eq wellFormed_fighter hleaf hv]
      exact Draw.runFrom_bind_ok.mpr ⟨_, t', hgenerate, rfl⟩
    · rw [holds_gt_zero hf hadmits hwa, ← isBlocked_iff hadmits hwa, hclear]
      exact Bool.false_ne_true
  cases hlocalize : r.checking.localizeFailures with
  | false => exact ⟨none, localize_ok.mpr (.inl ⟨hlocalize, rfl⟩)⟩
  | true =>
    exact ⟨_, Runner.blame_of_found hlocalize hattempts rfl hfound⟩

end

end Example.Battle

end Conformance
