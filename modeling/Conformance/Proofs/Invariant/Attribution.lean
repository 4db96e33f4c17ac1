import Conformance.Proofs.Checked.Rejection
import Conformance.Proofs.Invariant.Telling
import Conformance.Proofs.Validate.Diagnosis

/-!
# Conformance.Proofs.Invariant.Attribution

What it means that a drawn value is blamed for an argument that a checked
function rejected.

The object that was rejected knows where it comes from, and that is true of
it (`Library.rejects_of_predicate`).  So a drawn value that is this object is
also equal to it (`Origin.eq_of_isDrawn`), and the place at which the object
departs from the input is a place in the drawn value.

Which drawn value is blamed depends on how many are that object and conform
to their descriptors, the `holders`: none, the one there is, or the one of
several that the search for the part to blame finds as well.
-/

namespace Conformance

/-! ## Objects -/

/-- A drawn value that is an object is equal to it. -/
theorem Origin.eq_of_isDrawn {ds : List Descriptor} {values : List Value} {v w : Value}
    {o : Origin} {i : Nat} (ho : o.TrueOf values w) (hv : values[i]? = some v)
    (h : o.isDrawn ds i v w = true) : v = w := by
  rcases Bool.or_eq_true_iff.mp h with h | h
  · unfold isDrawn.passedOn at h
    split at h
    · obtain ⟨u, hu, hw⟩ := ho
      obtain rfl := beq_iff_eq.mp h
      obtain rfl : v = u := Option.some.inj (hv.symm.trans hu)
      exact Option.some.inj hw
    · cases h
  · unfold isDrawn.existsOnce at h
    split at h
    · rfl
    · rw [beq_iff_eq.mp h]
    · simp only [Bool.and_eq_true, beq_iff_eq] at h
      rw [h.1.1]
    · simp only [Bool.and_eq_true, beq_iff_eq] at h
      rw [h.1]
    · cases h

/-! ## Holders -/

/-- The drawn value of a position is the object `w` of origin `o`. -/
def DrawnAt (ds : List Descriptor) (values : List Value) (w : Value) (o : Origin) (i : Nat) :
    Prop :=
  ∃ v, values[i]? = some v ∧ o.isDrawn ds i v w = true

section

variable {ds : List Descriptor} {values : List Value} {w : Value} {o : Origin} {i : Nat}

/-- A holder of the object was drawn. -/
theorem HeldAt.drawnAt (h : HeldAt ds values w o i) : DrawnAt ds values w o i := by
  obtain ⟨-, v, -, hv, hdrawn, -⟩ := h
  exact ⟨v, hv, hdrawn⟩

/-- No position is listed twice. -/
theorem nodup_holders : (holders ds values w o).Nodup := by
  have hall : ((ds.zip values).zipIdx.map (·.2)).Nodup := by
    rw [List.zipIdx_map_snd]
    exact List.nodup_range'
  exact hall.sublist (List.filter_sublist.map _)

/-- The one position of which the value is the object, if that conforms. -/
theorem holders_eq_singleton (h : HeldAt ds values w o i)
    (honly : ∀ j, DrawnAt ds values w o j → j = i) : holders ds values w o = [i] := by
  have hmem : i ∈ holders ds values w o := mem_holders.mpr h
  have hall : ∀ j ∈ holders ds values w o, j = i := fun j hj =>
    honly j (mem_holders.mp hj).drawnAt
  have hlist := List.eq_replicate_of_mem hall
  have hnodup : (List.replicate (holders ds values w o).length i).Nodup := hlist ▸ nodup_holders
  have hpos : 0 < (holders ds values w o).length := List.length_pos_of_mem hmem
  have hone : (holders ds values w o).length = 1 :=
    Nat.le_antisymm (List.nodup_replicate.mp hnodup) hpos
  rw [hone] at hlist
  exact hlist

end

/-! ## Attribution -/

section

variable {c : Checking} {s : Sampling} {p : Predicate} {ds : List Descriptor}
variable {values : List Value} {seed : Nat} {m : Mismatch} {function : String} {w : Value}
variable {o : Origin} {found : Option Blame}

/-- What is blamed for a rejection is the value that was rejected. -/
theorem exists_rejected_of_attribution (hrejection : Rejection values (.argument m function w o))
    {blame : Blame} (h : (attribution c s p ds values seed (.argument m function w o)).outcome =
      .ok (some blame)) :
    ∃ (v : Value) (checked : Signature), values[blame.1]? = some v ∧
      o.isDrawn ds blame.1 v w = true ∧ v = w ∧ checked.input.validate v = some m ∧
      blame.2 = m.path ∧ (v.follow blame.2).Wraps m.actual := by
  obtain ⟨_, _, _, _, he, ⟨-, v, -, hv, hdrawn, -⟩, hpath⟩ := exists_heldAt_of_attribution h
  cases he
  cases hrejection with
  | @intro checked x m function hx hm =>
    have hsame : v = x.value := Origin.eq_of_isDrawn hx.origin hv hdrawn
    rw [← hsame] at hm
    have hplace : (v.follow m.path).Wraps m.actual :=
      Descriptor.wraps_of_departs (Descriptor.departs_of_validate hm)
    rw [← hpath] at hplace
    exact ⟨v, checked, hv, hdrawn, hsame, hm, hpath, hplace⟩

/-- If no drawn value is the object, none is blamed. -/
theorem attribution_of_not_drawn (h : ∀ i, ¬ DrawnAt ds values w o i) :
    attribution c s p ds values seed (.argument m function w o) = pure none := by
  have hnone : holders ds values w o = [] :=
    List.eq_nil_iff_forall_not_mem.mpr fun i hi => h i (mem_holders.mp hi).drawnAt
  simp only [attribution, hnone]

/-- If one drawn value is the object and conforms, it is blamed. -/
theorem attribution_of_only {i : Nat} (h : HeldAt ds values w o i)
    (honly : ∀ j, DrawnAt ds values w o j → j = i) :
    attribution c s p ds values seed (.argument m function w o) = pure (some (i, m.path)) := by
  simp only [attribution, holders_eq_singleton h honly]

/-- What is left of a part that was found if it has to belong to a holder of the object. -/
def heldOnly (ds : List Descriptor) (values : List Value) (w : Value) (o : Origin) (m : Mismatch) :
    Option Blame → Option Blame
  | some (i, _) => if (holders ds values w o).contains i then some (i, m.path) else none
  | none => none

/-- If several drawn values are the object and conform, the search decides. -/
theorem attribution_of_several {i j : Nat} (hne : i ≠ j) (hi : HeldAt ds values w o i)
    (hj : HeldAt ds values w o j) :
    attribution c s p ds values seed (.argument m function w o) =
      localize c s p ds values seed >>= fun found => pure (heldOnly ds values w o m found) := by
  have himem := mem_holders.mpr hi
  have hjmem := mem_holders.mpr hj
  unfold attribution heldOnly
  dsimp only
  split
  · next h =>
    rw [h] at himem
    cases himem
  · next k h =>
    rw [h, List.mem_singleton] at himem hjmem
    exact absurd (himem.trans hjmem.symm) hne
  · refine congrArg (_ >>= ·) (funext fun found => ?_)
    cases found with
    | none => rfl
    | some found => rfl

/-- What is found is kept exactly if it belongs to a holder of the object. -/
theorem map_heldOnly_eq_some {a : Int} :
    (heldOnly ds values w o m found).map (fun blame => (blame.1 : Int)) = some a ↔
      ∃ (n : Nat) (path : Path), a = n ∧ HeldAt ds values w o n ∧ found = some (n, path) := by
  cases found with
  | none => simp [heldOnly]
  | some found =>
    obtain ⟨n, path⟩ := found
    have hcontains : (holders ds values w o).contains n ↔ HeldAt ds values w o n :=
      List.contains_iff_mem.trans mem_holders
    unfold heldOnly
    dsimp only
    split
    · next hheld =>
      constructor
      · intro h
        exact ⟨n, path, (Option.some.inj h).symm, hcontains.mp hheld, rfl⟩
      · rintro ⟨n', path', rfl, -, hfound⟩
        cases hfound
        rfl
    · next hheld =>
      constructor
      · intro h
        cases h
      · rintro ⟨n', path', -, hheld', hfound⟩
        cases hfound
        exact absurd (hcontains.mpr hheld') hheld

end

/-! ## Counterexamples -/

/-- A declaration states the predicate of its function. -/
theorem Declaration.predicate_of_invariant {predicate : Callable → Predicate} {defaultTrials : Int}
    {d : Declaration} {i : Invariant} {f : Callable}
    (h : d.invariant predicate defaultTrials = .ok i) (hf : d.predicate = .function f) :
    i.predicate = predicate f := by
  unfold invariant at h
  rw [hf] at h
  cases hds : descriptorList d.descriptors with
  | error e =>
    rw [hds] at h
    cases h
  | ok ds =>
    cases hbudget : budget defaultTrials d.trials with
    | error e =>
      rw [hds, hbudget] at h
      cases h
    | ok budget =>
      rw [hds, hbudget] at h
      cases h
      rfl

namespace Runner

/-- A drawn value that is blamed for a rejected argument is that argument.

1. If an argument and a path are reported, then the drawn value of that
   position is the object that a checked function rejected, the path is that
   of the mismatch, and leads to what was found there, up to `just` layers.
2. If no drawn value is that object, none is reported.
3. If one is and conforms to its descriptor, it is reported.
4. If several are and conform to their descriptors, none is reported unless
   parts to blame are searched for, and then the one that the search finds, if
   it is among them.

Bodies may raise errors by hand; if this one is among those, it has to be a
rejection all the same. -/
theorem attribution_sound {lib : Library} (hlib : lib.Honest) {d : Declaration} {f : Callable}
    (hf : d.predicate = .function f) {r : Runner} {report : Report} {c : CounterExample Error}
    {m : Mismatch} {function : String} {w : Value} {o : Origin}
    (h : (declare lib d r).1.outcome = .ok report) (hc : report.counterexample = some c)
    (hcause : c.cause = some (.argument m function w o))
    (hraised : .argument m function w o ∈ lib.raises →
      Rejection c.values (.argument m function w o)) :
    (∀ a, c.argument = some a → ∃ (n : Nat) (v : Value) (s : Signature), a = n ∧
      c.values[n]? = some v ∧ o.isDrawn c.descriptors n v w = true ∧ v = w ∧
      s.input.validate v = some m ∧ c.path = m.path ∧ (v.follow c.path).Wraps m.actual) ∧
    ((∀ n, ¬ DrawnAt c.descriptors c.values w o n) → c.argument = none ∧ c.path = []) ∧
    (∀ n : Nat, HeldAt c.descriptors c.values w o n →
      (∀ k, DrawnAt c.descriptors c.values w o k → k = n) →
      c.argument = some (n : Int) ∧ c.path = m.path) ∧
    ∀ n k, n ≠ k → HeldAt c.descriptors c.values w o n → HeldAt c.descriptors c.values w o k →
      (r.checking.localizeFailures = false → c.argument = none ∧ c.path = []) ∧
      ∀ a, c.argument = some a ↔ ∃ (found : Nat) (path : Path), a = found ∧
        HeldAt c.descriptors c.values w o found ∧
        (localize r.checking r.sampling (lib.predicate f) c.descriptors c.values
          c.trialSeed.toNat).outcome = .ok (some (found, path)) := by
  obtain ⟨i, hi, hcheck⟩ := exists_check_of_declareBy h
  have hpredicate : i.predicate = lib.predicate f := d.predicate_of_invariant hi hf
  obtain ⟨-, values, index, seed, cause, blame, rfl, -, hfalsified, hblame⟩ :=
    exists_blame_of_check hcheck hc
  obtain rfl : cause = some (.argument m function w o) := hcause
  have hended : (attribution r.checking r.sampling i.predicate i.descriptors values seed
      (.argument m function w o)).outcome = .ok blame := hblame
  have hrejection : Rejection values (.argument m function w o) := by
    cases hfalsified with
    | raised hraise =>
      rw [hpredicate] at hraise
      exact (lib.rejects_of_predicate hlib hraise rfl).elim hraised id
  refine ⟨?_, ?_, ?_, ?_⟩
  · intro a ha
    cases blame with
    | none => cases ha
    | some blame =>
      obtain ⟨v, checked, hv, hrejected⟩ := exists_rejected_of_attribution hrejection hended
      exact ⟨blame.1, v, checked, (Option.some.inj ha).symm, hv, hrejected⟩
  · intro (hnone : ∀ n, ¬ DrawnAt i.descriptors values w o n)
    rw [attribution_of_not_drawn hnone] at hended
    cases hended
    exact ⟨rfl, rfl⟩
  · intro n (hn : HeldAt i.descriptors values w o n) honly
    rw [attribution_of_only hn honly] at hended
    cases hended
    exact ⟨rfl, rfl⟩
  · intro n k hne (hn : HeldAt i.descriptors values w o n) hk
    rw [attribution_of_several hne hn hk] at hended
    obtain ⟨found, hfound, hheld⟩ := Run.outcome_bind_ok.mp hended
    obtain rfl : heldOnly i.descriptors values w o m found = blame := Except.ok.inj hheld
    rw [hpredicate] at hfound
    refine ⟨fun hoff => ?_, fun a => ?_⟩
    · rcases localize_ok.mp hfound with ⟨-, rfl⟩ | ⟨hon, -⟩
      · exact ⟨rfl, rfl⟩
      · rw [hoff] at hon
        cases hon
    · refine map_heldOnly_eq_some.trans (exists_congr fun n => exists_congr fun path => ?_)
      have hsearch : (localize r.checking r.sampling (lib.predicate f) i.descriptors values
          seed).outcome = .ok (some (n, path)) ↔ found = some (n, path) := by
        rw [hfound]
        exact ⟨Except.ok.inj, congrArg _⟩
      exact and_congr_right fun _ => and_congr_right fun _ => hsearch.symm

/-- Code of the program that hands on what it is given. -/
def handOn : List Traced → Run Traced
  | t :: _ => pure t
  | [] => Run.raise (.intrinsic .type)

/-- That code as a function. -/
def handFunction : Callable := .defined 0 (some "hand") (some "hand") ""

/-- That function, checked for a struct of text. -/
def sayFunction : Callable := .defined 1 (some "say") (some "say") ""

/-- A predicate whose argument goes through code of the program before a
checked function gets it. -/
def sayLibrary : Library where
  definitions := #[.host handOn,
    .guarded ⟨none, .struct none [("on", .string none)], .boolean none⟩ handFunction,
    .body "said" none (.call "say" (.call "hand" (.arg 0)))]
  names := [("hand", .function handFunction), ("say", .function sayFunction)]

/-- Its code hands its argument on, so it rejects none by mistake. -/
theorem honest_sayLibrary : sayLibrary.Honest := by
  intro run hrun args ts hts
  obtain rfl : run = handOn := by simpa [sayLibrary] using hrun
  cases ts with
  | nil => exact Run.ends_raise (rejects_of_not_isRefusal _ rfl)
  | cons t ts => exact Run.ends_pure (hts t List.mem_cons_self)

/-- A declaration over a struct of a boolean. -/
def sayDeclared : Declaration :=
  ⟨.descriptor (.struct none [("on", .boolean none)]),
    .function (.defined 2 (some "said") (some "said") ""), .int 1, "said"⟩

/-- The boolean is where the struct of text has its text. -/
theorem attribution_sound_say :
    let r := ofSeed {} {} 0
    sayLibrary.Honest ∧ sayLibrary.raises = [] ∧
      ∃ report c m function w o, (declare sayLibrary sayDeclared r).1.outcome = .ok report ∧
        report.counterexample = some c ∧ c.cause = some (.argument m function w o) ∧
        c.argument = some 0 ∧ c.path.render? = some "on" ∧ c.values[0]? = some w ∧
        c.path = m.path ∧ (w.follow c.path).Wraps m.actual := by
  intro r
  have hrun : ((declare sayLibrary sayDeclared r).1.outcome.toOption.bind
      (·.counterexample)).map (fun c => (c.argument, c.path.render?, c.cause.map Error.isRefusal)) =
        some (some 0, some "on", some true) := by
    decide +kernel
  obtain ⟨c, hfound, htold⟩ := Option.map_eq_some_iff.mp hrun
  obtain ⟨report, hreport, hc⟩ := Option.bind_eq_some_iff.mp hfound
  have h : (declare sayLibrary sayDeclared r).1.outcome = .ok report :=
    toOption_eq_some.mp hreport
  obtain ⟨hargument, htold⟩ := Prod.mk.inj htold
  obtain ⟨hpath, hrefusal⟩ := Prod.mk.inj htold
  obtain ⟨e, hcause, he⟩ := Option.map_eq_some_iff.mp hrefusal
  cases e with
  | argument m function w o =>
    obtain ⟨hblamed, -⟩ := attribution_sound honest_sayLibrary rfl h hc hcause nofun
    obtain ⟨n, v, -, hn, hv, -, rfl, -, hm, hplace⟩ := hblamed 0 hargument
    obtain rfl : 0 = n := Int.ofNat.inj hn
    exact ⟨honest_sayLibrary, rfl, report, c, m, function, v, o, h, hc, hcause, hargument, hpath,
      hv, hm, hplace⟩
  | _ => cases he

end Runner

end Conformance
