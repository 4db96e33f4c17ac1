import Conformance.Example.Battle
import Conformance.Proofs.Checked.Layers
import Conformance.Proofs.Descriptor.WellFormed
import Conformance.Proofs.Expr
import Conformance.Proofs.Invariant.Verdict
import Conformance.Proofs.Validate.Place

/-!
# Conformance.Proofs.Example.Damage

The damage of a hit, on every pair of fighters.

A value that conforms to the descriptor of a fighter is read as a `Fighter`
(`exists_describes`): two bytes and an element.  The body of the function is
followed expression by expression and comes to `Fighter.hit`
(`exists_outcome_damageBody`), which is never negative and at most twice a
byte (`Fighter.hit_mem`), so the checks around the body pass
(`exists_damage`).

A predicate compares the damage of its first two arguments with zero
(`outcome_predicate_of_fighters`).  On too few arguments, or on others than
fighters, it fails in an ordinary way (`isOrdinary_predicate`).
-/

namespace Conformance.Example.Battle

/-! ## Fighters -/

/-- What a hit reads of a fighter. -/
structure Fighter where
  atk : Int
  armor : Int
  element : String
  atk_mem : 0 ≤ atk ∧ atk ≤ 255
  armor_mem : 0 ≤ armor ∧ armor ≤ 255

/-- A value that is read as a fighter. -/
inductive Describes (f : Fighter) : Value → Prop
  | dict {entries stats} (hstats : Value.lookupText entries "stats" = some (.dict stats))
    (hatk : Value.lookupText stats "atk" = some (.int f.atk))
    (harmor : Value.lookupText stats "def_" = some (.int f.armor))
    (helement : Value.lookupText entries "element" = some (.str f.element)) :
    Describes f (.dict entries)

/-- A value of a struct has an entry for each field that the field admits. -/
theorem exists_lookup_of_admits {n : Option String} {fields : List (String × Descriptor)} {v : Value}
    (h : (Descriptor.struct n fields).Admits v) :
    ∃ entries, v = .dict entries ∧ ∀ f ∈ fields,
      ∃ w, Value.lookupText entries f.1 = some w ∧ f.2.Admits w := by
  cases h with
  | struct hkeys hentries =>
    refine ⟨_, rfl, fun f hf => ?_⟩
    obtain ⟨w, hw⟩ := Value.exists_lookupText.mpr ((hkeys (.str f.1)).mpr ⟨f, hf, rfl⟩)
    exact ⟨w, hw, hentries f hf w hw⟩

/-- A value of an integer kind is an integer of its range. -/
theorem exists_int_of_admits {n : Option String} {kind : IntegerKind} {low high : Int} {v : Value}
    (h : (Descriptor.integer n kind low high).Admits v) : ∃ i, v = .int i ∧ low ≤ i ∧ i ≤ high := by
  cases h with
  | integer hi => exact ⟨_, rfl, hi⟩

/-- Whatever conforms is read as a fighter. -/
theorem exists_describes {v : Value} (h : fighter.Admits v) : ∃ f, Describes f v := by
  obtain ⟨entries, rfl, hfields⟩ := exists_lookup_of_admits h
  obtain ⟨s, hs, hstats⟩ := hfields ("stats", stats) (by simp)
  obtain ⟨e, he, helement⟩ := hfields ("element", element) (by simp)
  obtain ⟨inner, rfl, hnumbers⟩ := exists_lookup_of_admits hstats
  obtain ⟨a, ha, hatk⟩ := hnumbers ("atk", .ofInteger .uint8) (by simp)
  obtain ⟨d, hd, harmor⟩ := hnumbers ("def_", .ofInteger .uint8) (by simp)
  obtain ⟨atk, rfl, hatkRange⟩ := exists_int_of_admits hatk
  obtain ⟨armor, rfl, harmorRange⟩ := exists_int_of_admits harmor
  cases helement with
  | @label _ _ name _ => exact ⟨⟨atk, armor, name, hatkRange, harmorRange⟩, .dict hs ha hd he⟩

/-! ## The damage of a hit -/

/-- The damage that one fighter does to another. -/
def Fighter.hit (a d : Fighter) : Int :=
  max (a.atk - d.armor) 0 * if (a.element, d.element) ∈ advantages then 2 else 1

/-- The damage is in the range of its type, whoever fights. -/
theorem Fighter.hit_mem (a d : Fighter) : 0 ≤ a.hit d ∧ a.hit d ≤ 510 := by
  have hatk := a.atk_mem
  have harmor := d.armor_mem
  unfold hit
  split
  · omega
  · omega

/-- There is damage exactly if the attack exceeds the armor. -/
theorem Fighter.hit_pos_iff (a d : Fighter) : 0 < a.hit d ↔ d.armor < a.atk := by
  unfold hit
  split
  · omega
  · omega

section

variable {a d : Fighter} {v w : Value} {call : String → Traced → Run Traced}
variable (ha : Describes a v) (hd : Describes d w) (o o' : Origin)

/-- Both fighters as one argument. -/
abbrev matchup (v w : Value) (o o' : Origin) : List Traced := [.tuple [.whole v o, .whole w o']]

/-- An entry that is there is found by its name. -/
theorem index_of_lookup {entries : List (Value × Value)} {name : String} {u : Value}
    (h : Value.lookupText entries name = some u) :
    (Value.dict entries).index (.str name) = .ok u := by
  unfold Value.lookupText Value.lookup at h
  obtain ⟨e, he, rfl⟩ := Option.map_eq_some_iff.mp h
  simp only [Value.index, Value.entryAt, Value.isKey, he, if_true]

/-- A field of a mapping. -/
theorem outcome_field {args : List Traced} {e : Expr} {entries : List (Value × Value)}
    {o : Origin} {name : String} {u : Value}
    (he : (e.eval call args).outcome = .ok (.whole (.dict entries) o))
    (hu : Value.lookupText entries name = some u) :
    ((field e name).eval call args).outcome = .ok (.whole u (o.part (.key (.str name)))) := by
  rw [field, Expr.outcome_binary, he, Expr.outcome_lit]
  show (((Value.dict entries).index (.str name)).map _).mapError Fault.of = _
  rw [index_of_lookup hu]
  rfl

/-- The first argument is the attacker. -/
theorem outcome_attacker : (attacker.eval call (matchup v w o o')).outcome = .ok (.whole v o) := by
  rw [attacker, Expr.outcome_binary, Expr.outcome_arg, Expr.outcome_lit]
  rfl

/-- The second argument is the defender. -/
theorem outcome_defender : (defender.eval call (matchup v w o o')).outcome = .ok (.whole w o') := by
  rw [defender, Expr.outcome_binary, Expr.outcome_arg, Expr.outcome_lit]
  rfl

variable (call)

include ha in
/-- What is read of a fighter that an expression comes to. -/
theorem exists_outcome_parts {e : Expr} {args : List Traced}
    (he : (e.eval call args).outcome = .ok (.whole v o)) :
    (∃ p, ((field (field e "stats") "atk").eval call args).outcome = .ok (.whole (.int a.atk) p)) ∧
      (∃ p, ((field (field e "stats") "def_").eval call args).outcome =
        .ok (.whole (.int a.armor) p)) ∧
      ∃ p, ((field e "element").eval call args).outcome = .ok (.whole (.str a.element) p) := by
  cases ha with
  | dict hstats hatk harmor helement =>
    exact ⟨⟨_, outcome_field (outcome_field he hstats) hatk⟩,
      ⟨_, outcome_field (outcome_field he hstats) harmor⟩, ⟨_, outcome_field he helement⟩⟩

theorem compareBy_int (c : Value.Comparison) (n m : Int) :
    (Value.int n).compareBy c (.int m) = .ok (c.holds (some (compare n m))) := rfl

theorem holds_gt (n m : Int) : Value.Comparison.gt.holds (some (compare n m)) = decide (m < n) := by
  cases h : compare n m with
  | lt => simp [Value.Comparison.holds, Int.le_of_lt (Int.compare_eq_lt.mp h)]
  | eq => simp [Value.Comparison.holds, Int.compare_eq_eq.mp h]
  | gt => simp [Value.Comparison.holds, Int.compare_eq_gt.mp h]

theorem holds_ge (n m : Int) : Value.Comparison.ge.holds (some (compare n m)) = decide (m ≤ n) := by
  cases h : compare n m with
  | lt => simp [Value.Comparison.holds, Int.compare_eq_lt.mp h]
  | eq => simp [Value.Comparison.holds, Int.compare_eq_eq.mp h]
  | gt => simp [Value.Comparison.holds, Int.le_of_lt (Int.compare_eq_gt.mp h)]

/-- The greater of two integers is one of them. -/
theorem exists_greatest (n m : Int) (o o' : Origin) :
    ∃ t, Traced.extremeOf .gt [.whole (.int n) o, .whole (.int m) o'] = .ok t ∧
      t.value = .int (max n m) := by
  simp only [Traced.extremeOf, Traced.extreme, Traced.value, compareBy_int, holds_gt]
  by_cases h : n < m
  · refine ⟨.whole (.int m) o', ?_, ?_⟩
    · simp only [h, decide_true]
      rfl
    · rw [Traced.value, Int.max_eq_right (Int.le_of_lt h)]
  · refine ⟨.whole (.int n) o, ?_, ?_⟩
    · simp only [h, decide_false]
      rfl
    · rw [Traced.value, Int.max_eq_left (Int.not_lt.mp h)]

include ha hd in
/-- Without an advantage the damage is what the attack exceeds the armor by. -/
theorem exists_outcome_base : ∃ t, (base.eval call (matchup v w o o')).outcome = .ok t ∧
    t.value = .int (max (a.atk - d.armor) 0) := by
  obtain ⟨⟨p, hatk⟩, -, -⟩ :=
    exists_outcome_parts call ha o (outcome_attacker (w := w) o o')
  obtain ⟨-, ⟨q, harmor⟩, -⟩ :=
    exists_outcome_parts call hd o' (outcome_defender (v := v) o o')
  obtain ⟨t, ht, hvalue⟩ := exists_greatest (a.atk - d.armor) 0 .made .given
  refine ⟨t, ?_, hvalue⟩
  rw [base, Expr.outcome_greatest, Expr.outcome_evalAll_cons, Expr.outcome_binary, hatk, harmor,
    Expr.outcome_evalAll_cons, Expr.outcome_lit, Expr.outcome_evalAll_nil]
  exact congrArg (Except.mapError Fault.of) ht

/-- The product of two integers is a new one. -/
theorem mul_ints {t u : Traced} {n m : Int} (ht : t.value = .int n) (hu : u.value = .int m) :
    t.mul u = .ok (.fresh (.int (n * m))) := by
  unfold Traced.mul
  rw [ht, hu]
  simp only
  rfl

/-- A pair of texts is found in a tuple of pairs exactly if it is one of them. -/
theorem contains_pairs (pairs : List (String × String)) (s t : String) :
    (Value.tuple [.str s, .str t]).contains
        (.tuple (pairs.map fun p => .tuple [.str p.1, .str p.2])) =
      .ok (decide ((s, t) ∈ pairs)) := by
  rw [Value.contains]
  refine congrArg Except.ok (Bool.eq_iff_iff.mpr ?_)
  simp [List.any_map, Value.same, Value.sameItems]

include ha hd in
/-- Whether there is an advantage is looked up in the table. -/
theorem outcome_hasAdvantage : (hasAdvantage.eval call (matchup v w o o')).outcome =
    .ok (.fresh (.bool (decide ((a.element, d.element) ∈ advantages)))) := by
  obtain ⟨-, -, p, hattacker⟩ :=
    exists_outcome_parts call ha o (outcome_attacker (w := w) o o')
  obtain ⟨-, -, q, hdefender⟩ :=
    exists_outcome_parts call hd o' (outcome_defender (v := v) o o')
  rw [hasAdvantage, Expr.outcome_binary, Expr.outcome_tuple, Expr.outcome_evalAll_cons, hattacker,
    Expr.outcome_evalAll_cons, hdefender, Expr.outcome_evalAll_nil, Expr.outcome_lit]
  exact congrArg (fun found => (found.map fun r => Traced.fresh (.bool r)).mapError Fault.of)
    (contains_pairs advantages a.element d.element)

include ha hd in
/-- The damage is computed on every pair of fighters. -/
theorem exists_outcome_damageBody : ∃ t,
    (damageBody.eval call (matchup v w o o')).outcome = .ok t ∧ t.value = .int (a.hit d) := by
  obtain ⟨t, ht, hvalue⟩ := exists_outcome_base call ha hd o o'
  rw [damageBody, Expr.outcome_ite, outcome_hasAdvantage call ha hd]
  by_cases h : (a.element, d.element) ∈ advantages
  · refine ⟨.fresh (.int (a.hit d)), ?_, rfl⟩
    rw [decide_eq_true h]
    show ((Expr.binary .mul base (.lit (.int 2))).eval call (matchup v w o o')).outcome = _
    rw [Expr.outcome_binary, ht, Expr.outcome_lit, Fighter.hit, if_pos h]
    exact congrArg (Except.mapError Fault.of) (mul_ints hvalue rfl)
  · refine ⟨t, ?_, ?_⟩
    · rw [decide_eq_false h]
      exact ht
    · rw [hvalue, Fighter.hit, if_neg h, Int.mul_one]

end

/-! ## The checked function -/

/-- The function that computes the damage. -/
def damageFunction : Callable := .defined 0 (some "damage") (some "damage") "damage"

/-- What the damage is checked against. -/
def damageLayer : Signature := ⟨none, .pair none fighter fighter, .ofInteger .uint16⟩

/-- The library in which the damage is checked. -/
def checkedLibrary : Library :=
  (library.wrap damageLayer damageFunction).1.bind "damage"
    (.function (library.wrap damageLayer damageFunction).2)

/-- The checked function that the name leads to. -/
def checkedDamage : Callable := (library.wrap damageLayer damageFunction).2

theorem lookup_damage : checkedLibrary.names.lookup "damage" = some (.function checkedDamage) := rfl

theorem definition?_checkedDamage :
    checkedLibrary.definition? checkedDamage = some (.guarded damageLayer damageFunction) := rfl

theorem definition?_damageFunction :
    checkedLibrary.definition? damageFunction = some (.body "damage" none damageBody) := rfl

/-- The descriptor of a fighter is well-formed. -/
theorem wellFormed_fighter : fighter.WellFormed := by
  simp [fighter, stats, element, Descriptor.ofInteger, Descriptor.WellFormed,
    Descriptor.FieldsWellFormed, Descriptor.NameWellFormed, IntegerKind.low, IntegerKind.high]

/-- No function stands in it, so fighters can be drawn. -/
theorem not_hasFunction_fighter : ¬ fighter.HasFunction := by
  simp [fighter, stats, element, Descriptor.ofInteger, Descriptor.HasFunction,
    Descriptor.FieldsHaveFunction]

section

variable {a d : Fighter} {v w : Value}

/-- The damage of a hit passes the check of its result. -/
theorem validate_hit (a d : Fighter) :
    (Descriptor.ofInteger .uint16).validate (.int (a.hit d)) = none := by
  obtain ⟨hlow, hhigh⟩ := a.hit_mem d
  exact Descriptor.validate_of_admits (.integer ⟨hlow, by simp [IntegerKind.high]; omega⟩)

/-- The checked function returns the damage of every pair that it accepts. -/
theorem exists_damage (hv : fighter.Admits v) (hw : fighter.Admits w) (ha : Describes a v)
    (hd : Describes d w) (o o' : Origin) (depth : Nat) :
    ∃ t, (checkedLibrary.applyWithin (depth + 2) checkedDamage
        [.tuple [.whole v o, .whole w o']]).outcome = .ok t ∧ t.value = .int (a.hit d) := by
  obtain ⟨call, -, hbody⟩ := Library.exists_outcome_of_body definition?_damageFunction depth
    (matchup v w o o')
  obtain ⟨t, ht, hvalue⟩ := exists_outcome_damageBody call ha hd o o'
  refine ⟨t, ?_, hvalue⟩
  rw [Library.applyWithin_of_guarded definition?_checkedDamage]
  refine Signature.outcome_guard_of_passed ?_ (hbody.trans ht) ?_
  · exact Descriptor.validate_of_admits (.pair (.tuple _) hv hw)
  · rw [hvalue]
    exact validate_hit a d

/-! ## Predicates -/

variable {f : Callable} {name : String} {c : Value.Comparison}
variable (hf : checkedLibrary.definition? f = some (.body name none (damageIs c)))

include hf in
/-- A predicate compares with zero what the call of the checked function comes to. -/
theorem outcome_predicate (values : List Value) :
    ∃ call : String → Traced → Run Traced,
      (∀ x, call "damage" x = checkedLibrary.applyWithin 999 checkedDamage [x]) ∧
      (checkedLibrary.predicate f values).outcome =
        ((damage.eval call (Traced.arguments values)).outcome >>= fun t =>
          ((t.value.compareBy c (.int 0)).map .bool).mapError Fault.of) := by
  obtain ⟨call, hcall, hbody⟩ := Library.exists_outcome_of_body hf 999 (Traced.arguments values)
  refine ⟨call, hcall "damage" checkedDamage lookup_damage, ?_⟩
  show (checkedLibrary.applyWithin (999 + 1) f _).outcome.map Traced.value = _
  rw [hbody, damageIs, Expr.outcome_binary, Expr.outcome_lit]
  rcases (damage.eval call (Traced.arguments values)).outcome with fault | t
  · rfl
  · show (((t.value.compareBy c (.int 0)).map _).mapError Fault.of).map Traced.value =
      ((t.value.compareBy c (.int 0)).map .bool).mapError Fault.of
    rcases t.value.compareBy c (.int 0) with e | b
    · rfl
    · rfl

/-- The call that a predicate on two values makes. -/
theorem outcome_damage_of_two (call : String → Traced → Run Traced) (v w : Value)
    (more : List Value) :
    (damage.eval call (Traced.arguments (v :: w :: more))).outcome =
      (call "damage" (.tuple [.whole v (.argument 0 []), .whole w (.argument 1 [])])).outcome := by
  rw [damage, Expr.outcome_call, Expr.outcome_tuple, Expr.outcome_evalAll_cons, Expr.outcome_arg,
    Expr.outcome_evalAll_cons, Expr.outcome_arg, Expr.outcome_evalAll_nil]
  rfl

include hf in
/-- Of two fighters, the damage that the first does to the second is compared. -/
theorem outcome_predicate_of_fighters (hv : fighter.Admits v) (hw : fighter.Admits w)
    (ha : Describes a v) (hd : Describes d w) (more : List Value) :
    (checkedLibrary.predicate f (v :: w :: more)).outcome =
      .ok (.bool (c.holds (some (compare (a.hit d) 0)))) := by
  obtain ⟨call, hcall, hpredicate⟩ := outcome_predicate hf (v :: w :: more)
  obtain ⟨t, ht, hvalue⟩ := exists_damage hv hw ha hd (.argument 0 []) (.argument 1 []) 997
  rw [hpredicate, outcome_damage_of_two, hcall, ht]
  show ((t.value.compareBy c (.int 0)).map _).mapError Fault.of = _
  rw [hvalue, compareBy_int]
  rfl

include hf in
/-- Whatever a predicate is called on, it returns or fails. -/
theorem isOrdinary_predicate : (checkedLibrary.predicate f).IsOrdinary := by
  intro values fault h
  obtain ⟨call, hcall, hpredicate⟩ := outcome_predicate hf values
  have hshort : (damage.eval call (Traced.arguments values)).outcome =
      .error (.of (.intrinsic .index)) → fault.IsFailure := by
    intro hdamage
    rw [hpredicate, hdamage] at h
    obtain rfl := Except.error.inj h
    exact ⟨rfl, fun m hm => by cases hm⟩
  rcases values with _ | ⟨v, _ | ⟨w, more⟩⟩
  · refine hshort ?_
    rw [damage, Expr.outcome_call, Expr.outcome_tuple, Expr.outcome_evalAll_cons, Expr.outcome_arg]
    rfl
  · refine hshort ?_
    rw [damage, Expr.outcome_call, Expr.outcome_tuple, Expr.outcome_evalAll_cons, Expr.outcome_arg,
      Expr.outcome_evalAll_cons, Expr.outcome_arg]
    rfl
  · rcases hrefused : damageLayer.input.validate (.tuple [v, w]) with _ | m
    · cases Descriptor.admits_of_validate hrefused with
      | pair hsequence hv hw =>
        cases hsequence
        obtain ⟨a, ha⟩ := exists_describes hv
        obtain ⟨d, hd⟩ := exists_describes hw
        rw [outcome_predicate_of_fighters hf hv hw ha hd more] at h
        cases h
    · rw [hpredicate, outcome_damage_of_two, hcall,
        Library.applyWithin_of_guarded definition?_checkedDamage,
        Signature.outcome_guard_of_refused hrefused] at h
      obtain rfl := Except.error.inj h
      refine ⟨rfl, fun m' hm => ?_⟩
      obtain rfl := Option.some.inj hm
      exact Path.isNameOrInteger_of_isPlain (Descriptor.departs_of_validate hrefused).all_isPlain

end

end Conformance.Example.Battle
