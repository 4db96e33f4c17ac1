import Conformance.Invariant.Runner
import Conformance.Proofs.Invariant.Search
import Mathlib.Data.List.Forall2

/-!
# Conformance.Proofs.Invariant.Tuple

The tuples that trials draw, and the redraws of their leaves.

A tuple that is drawn has a canonical value for each of its descriptors
(`canonical_of_generateAll`).  So the redraw of a leaf is a draw for the
descriptor of the leaf, put in its place (`Leaf.redraw_eq`), and no redraw
raises an error (`Leaf.onlyGivesUp_redraw`).
-/

namespace Conformance

namespace Descriptor

variable {s : Sampling} {good : Float → Prop}

/-- `x` is a double that `Draw.uniform` yields while values are drawn for
descriptors in turn from a source. -/
inductive NumberDrawnAmong (s : Sampling) : List Descriptor → Twister → Float → Prop
  | head {d ds t x} (hx : NumberDrawn s d t x) : NumberDrawnAmong s (d :: ds) t x
  | tail {d ds t v t' x} (h : (generate s d).runFrom t = (.ok v, t'))
    (hx : NumberDrawnAmong s ds t' x) : NumberDrawnAmong s (d :: ds) t x

/-- The values drawn for descriptors without functions are canonical, one for each. -/
theorem canonical_of_generateAll : {ds : List Descriptor} → (∀ d ∈ ds, ¬ d.HasFunction) →
    {t t' : Twister} → {values : List Value} →
    (generateAll s ds).runFrom t = (.ok values, t') → (∀ x, NumberDrawnAmong s ds t x → good x) →
    List.Forall₂ (fun d v => d.Canonical s good v) ds values
  | [], _, t, t', values, h, _ => by
      simp only [generateAll, Draw.runFrom_pure] at h
      cases h
      exact .nil
  | d :: ds, hf, t, t', values, h, hgood => by
      simp only [generateAll, Draw.runFrom_bind_ok, Draw.runFrom_pure] at h
      obtain ⟨v, t₁, hv, vs, t₂, hvs, h⟩ := h
      cases h
      have hsample : (sample s d).runFrom t = (.ok v, t₁) := by
        rwa [generate_eq_sample s (hf d List.mem_cons_self)] at hv
      have hhead : d.Canonical s good v :=
        canonical_of_sample d t v t₁ hsample fun x hx => hgood x (.head hx)
      exact .cons hhead
        (canonical_of_generateAll (fun e he => hf e (List.mem_cons_of_mem d he)) hvs
          fun x hx => hgood x (.tail hv hx))

/-- Without a function nothing is refused, so a draw can only be given up. -/
theorem onlyGivesUp_generate {d : Descriptor} (hd : ¬ d.HasFunction) :
    (generate s d).OnlyGivesUp := by
  rw [generate_eq_sample s hd]
  exact onlyGivesUp_sample s d

theorem onlyGivesUp_generateAll : {ds : List Descriptor} → (∀ d ∈ ds, ¬ d.HasFunction) →
    (generateAll s ds).OnlyGivesUp
  | [], _ => Draw.onlyGivesUp_pure []
  | d :: _, hf =>
    (onlyGivesUp_generate (hf d List.mem_cons_self)).bind fun _ =>
      (onlyGivesUp_generateAll fun e he => hf e (List.mem_cons_of_mem d he)).bind fun _ =>
        Draw.onlyGivesUp_pure _

end Descriptor

/-! ## Replaying -/

namespace Sampling

variable {s : Sampling} {ds : List Descriptor} {seed : Int}

/-- What is replayed is canonical; its doubles are those drawn on the way. -/
theorem canonical_of_replay_good (hf : ∀ d ∈ ds, ¬ d.HasFunction) {values : List Value}
    (h : s.replay ds seed = .ok values) {good : Float → Prop}
    (hgood : ∀ x, Descriptor.NumberDrawnAmong s ds (Twister.ofSeed seed) x → good x) :
    List.Forall₂ (fun d v => d.Canonical s good v) ds values := by
  unfold replay at h
  rcases hrun : (Descriptor.generateAll s ds).runFrom (Twister.ofSeed seed) with ⟨told, t'⟩
  rw [hrun] at h
  obtain rfl : told = .ok values := h
  exact Descriptor.canonical_of_generateAll hf hrun hgood

/-- What is replayed is canonical, whatever its doubles are. -/
theorem canonical_of_replay (hf : ∀ d ∈ ds, ¬ d.HasFunction) {values : List Value}
    (h : s.replay ds seed = .ok values) :
    List.Forall₂ (fun d v => d.Canonical s (fun _ => True) v) ds values :=
  canonical_of_replay_good hf h fun _ _ => trivial

/-- What cannot be replayed was given up. -/
theorem unfinished_of_replay (hf : ∀ d ∈ ds, ¬ d.HasFunction) {fault : Fault}
    (h : s.replay ds seed = .error fault) : fault = .unfinished := by
  unfold replay at h
  rcases hrun : (Descriptor.generateAll s ds).runFrom (Twister.ofSeed seed) with ⟨told, t'⟩
  rw [hrun] at h
  obtain rfl : told = .error fault := h
  exact Descriptor.onlyGivesUp_generateAll hf _ fault t' hrun

end Sampling

/-- What is replayed from descriptors that were written down is the tuple of the trial. -/
theorem Runner.replay_eq (r : Runner) (ds : List Descriptor) (seed : Int) :
    r.replay (.tuple (ds.map .descriptor)) seed = r.sampling.replay ds seed := by
  have hall : Descriptor.generateForAll r.sampling (ds.map .descriptor) =
      Descriptor.generateAll r.sampling ds := by
    induction ds with
    | nil => rfl
    | cons d ds ih =>
      show (Descriptor.generateFor r.sampling (.descriptor d) >>= fun v => _) = _
      rw [ih]
      rfl
  show ((Descriptor.generateForAll r.sampling (ds.map .descriptor)).runFrom _).1 = _
  rw [hall]
  rfl

/-! ## Leaves of a tuple -/

namespace Leaf

variable {s : Sampling} {ds : List Descriptor} {values : List Value} {leaf : Leaf}

/-- The leaves of a tuple are those of its descriptors, each with its value. -/
theorem mem_all : leaf ∈ Leaf.all ds values ↔
    ds[leaf.argument]? = some leaf.descriptor ∧ values[leaf.argument]? = some leaf.value ∧
      ∃ e, (leaf.path, e) ∈ leaf.descriptor.leafPaths := by
  unfold Leaf.all
  simp only [List.mem_flatMap, List.mem_map, Prod.exists, List.mk_mem_zipIdx_iff_getElem?,
    List.getElem?_zip_eq_some]
  constructor
  · rintro ⟨d, v, a, ⟨hd, hv⟩, path, e, he, rfl⟩
    exact ⟨hd, hv, e, he⟩
  · rintro ⟨hd, hv, e, he⟩
    exact ⟨leaf.descriptor, leaf.value, leaf.argument, ⟨hd, hv⟩, leaf.path, e, he, rfl⟩

/-- A leaf of a tuple is determined by its position. -/
theorem eq_of_mem_all {other : Leaf} (h : leaf ∈ Leaf.all ds values)
    (h' : other ∈ Leaf.all ds values) (hargument : leaf.argument = other.argument)
    (hpath : leaf.path = other.path) : leaf = other := by
  obtain ⟨hd, hv, -⟩ := mem_all.mp h
  obtain ⟨hd', hv', -⟩ := mem_all.mp h'
  rw [← hargument] at hd' hv'
  have hdescriptor := Option.some.inj (hd.symm.trans hd')
  have hvalue := Option.some.inj (hv.symm.trans hv')
  cases leaf
  cases other
  congr

/-- What stands at an argument of a drawn tuple is canonical for its descriptor. -/
theorem canonical_of_mem_all {good : Float → Prop}
    (hvalues : List.Forall₂ (fun d v => d.Canonical s good v) ds values)
    (h : leaf ∈ Leaf.all ds values) : leaf.descriptor.Canonical s good leaf.value := by
  obtain ⟨hd, hv, -⟩ := mem_all.mp h
  obtain ⟨ha, hd⟩ := List.getElem?_eq_some_iff.mp hd
  obtain ⟨ha', hv⟩ := List.getElem?_eq_some_iff.mp hv
  rw [← hd, ← hv]
  exact (List.forall₂_iff_get.mp hvalues).2 leaf.argument ha ha'

/-- The redraw of a leaf puts what is drawn for the leaf in its place. -/
theorem redraw_eq {good : Float → Prop} {e : Descriptor} (hd : leaf.descriptor.WellFormed)
    (he : (leaf.path, e) ∈ leaf.descriptor.leafPaths)
    (hv : leaf.descriptor.Canonical s good leaf.value) :
    leaf.redraw s values =
      (e.generate s >>= fun w => pure (values.set leaf.argument (leaf.value.put leaf.path w))) := by
  obtain ⟨hat, hplain⟩ := Descriptor.descriptorAt_of_mem_leafPaths leaf.descriptor hd leaf.path e he
  rw [redraw, Descriptor.generateAt_eq_put leaf.path hd hplain hat hv, bind_assoc]
  simp only [pure_bind]

/-- The part at a leaf, where no function stands among the descriptors. -/
theorem exists_part_of_mem_all (hwf : ∀ d ∈ ds, d.WellFormed) (hf : ∀ d ∈ ds, ¬ d.HasFunction)
    (h : leaf ∈ Leaf.all ds values) :
    ∃ e, (leaf.path, e) ∈ leaf.descriptor.leafPaths ∧
      leaf.descriptor.descriptorAt leaf.path = .ok e ∧ ¬ e.HasFunction := by
  obtain ⟨hd, -, e, he⟩ := mem_all.mp h
  have hmem := List.mem_of_getElem? hd
  obtain ⟨hat, hplain⟩ := Descriptor.descriptorAt_of_mem_leafPaths leaf.descriptor
    (hwf leaf.descriptor hmem) leaf.path e he
  exact ⟨e, he, hat, fun hfunction =>
    hf leaf.descriptor hmem (Descriptor.hasFunction_of_descriptorAt leaf.path hplain hat hfunction)⟩

/-- The redraw of a leaf of a drawn tuple raises nothing. -/
theorem onlyGivesUp_redraw (hwf : ∀ d ∈ ds, d.WellFormed) (hf : ∀ d ∈ ds, ¬ d.HasFunction)
    {good : Float → Prop} (hvalues : List.Forall₂ (fun d v => d.Canonical s good v) ds values)
    (h : leaf ∈ Leaf.all ds values) : (leaf.redraw s values).OnlyGivesUp := by
  obtain ⟨hd, -⟩ := mem_all.mp h
  obtain ⟨e, he, -, hnone⟩ := exists_part_of_mem_all hwf hf h
  rw [redraw_eq (hwf leaf.descriptor (List.mem_of_getElem? hd)) he (canonical_of_mem_all hvalues h)]
  exact (Descriptor.onlyGivesUp_generate hnone).bind fun _ => Draw.onlyGivesUp_pure _

theorem all_isPlain_of_mem_all (hwf : ∀ d ∈ ds, d.WellFormed) (h : leaf ∈ Leaf.all ds values) :
    leaf.path.all Segment.isPlain := by
  obtain ⟨hd, -, e, he⟩ := mem_all.mp h
  have hleaf := hwf leaf.descriptor (List.mem_of_getElem? hd)
  exact (Descriptor.descriptorAt_of_mem_leafPaths leaf.descriptor hleaf leaf.path e he).2

end Leaf

end Conformance
