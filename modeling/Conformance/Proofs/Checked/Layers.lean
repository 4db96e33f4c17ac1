import Conformance.Library
import Conformance.Proofs.Run

/-!
# Conformance.Proofs.Checked.Layers

Functions under several layers of checks.

A checked function may be checked again, and again, each time against a
signature of its own.  `answer` says what a call of the outermost comes to:

1. The argument is looked at from the outside in.  The first layer that
   rejects it ends the call, and the function is not called.
2. Otherwise the function is called once, and its faults pass through.
3. The result is looked at from the inside out.  The first layer that rejects
   it ends the call; if there is none, the result is handed on as it is.
4. The layers log the one rejection, and nothing without one.

A call of wrapped functions in a library is such a call
(`applyWithin_wrapAll`).
-/

namespace Conformance

/-- A layer of checks: a signature, and the name of what it wraps. -/
structure Layer where
  signature : Signature
  function : String

namespace Layer

/-- The event that a rejection is logged as. -/
def rejection (l : Layer) (event : String) (m : Mismatch) : Effect :=
  .logged ⟨.debug, event,
    [("system", .str "conformos.engine.checked"), ("function", .str l.function),
      ("path", .str m.location), ("expected", .str m.expected.render)]⟩

/-- A call of a function under layers of checks, the innermost first. -/
def guardAll : List Layer → (Traced → Run Traced) → Traced → Run Traced
  | [], f => f
  | l :: layers, f => guardAll layers (l.signature.guard l.function f)

/-- The outermost layer that rejects an argument. -/
def refusal? (layers : List Layer) (v : Value) : Option (Layer × Mismatch) :=
  layers.reverse.findSome? fun l => (l.signature.input.validate v).map (l, ·)

/-- The innermost layer that rejects a result. -/
def discard? (layers : List Layer) (v : Value) : Option (Layer × Mismatch) :=
  layers.findSome? fun l => (l.signature.output.validate v).map (l, ·)

/-- What layers make of a result that the function returned for `x`. -/
def passOut (layers : List Layer) (x r : Traced) : Run Traced :=
  match discard? layers r.value with
  | some (l, m) =>
    ⟨.error (.of (.result m l.function x.value r.value)), [l.rejection "result_rejected" m]⟩
  | none => ⟨.ok r, []⟩

/-- What a call of a function under layers of checks comes to. -/
def answer (layers : List Layer) (f : Traced → Run Traced) (x : Traced) : Run Traced :=
  match refusal? layers x.value with
  | some (l, m) =>
    ⟨.error (.of (.argument m l.function x.value x.origin)), [l.rejection "argument_rejected" m]⟩
  | none => f x >>= passOut layers x

/-! ## Layer by layer -/

section

variable (l : Layer) (layers : List Layer) (f : Traced → Run Traced) (x r : Traced)

theorem refusal?_cons (v : Value) :
    refusal? (l :: layers) v =
      (refusal? layers v).or ((l.signature.input.validate v).map (l, ·)) := by
  unfold refusal?
  rw [List.reverse_cons, List.findSome?_append, List.findSome?_singleton]

/-- A result gets past a layer before it comes to those around it. -/
theorem passOut_cons : passOut (l :: layers) x r = passOut [l] x r >>= passOut layers x := by
  unfold passOut discard?
  simp only [List.findSome?_cons, List.findSome?_nil]
  cases l.signature.output.validate r.value with
  | some m => rfl
  | none => exact (pure_bind r (passOut layers x)).symm

/-- One layer is the call of a checked function. -/
theorem guard_eq_answer : l.signature.guard l.function f x = answer [l] f x := by
  unfold Signature.guard answer
  rw [refusal?_cons]
  cases l.signature.input.validate x.value with
  | some m => rfl
  | none =>
    refine congrArg (f x >>= ·) (funext fun r => ?_)
    unfold passOut discard?
    rw [List.findSome?_singleton]
    cases l.signature.output.validate r.value with
    | some m => rfl
    | none => rfl

/-- An argument comes to the outer layers before it gets to the innermost. -/
theorem answer_cons : answer (l :: layers) f x = answer layers (answer [l] f) x := by
  unfold answer
  rw [refusal?_cons, refusal?_cons]
  cases refusal? layers x.value with
  | some found => rfl
  | none =>
    cases l.signature.input.validate x.value with
    | some m => rfl
    | none =>
      show f x >>= passOut (l :: layers) x = (f x >>= passOut [l] x) >>= passOut layers x
      rw [bind_assoc]
      exact congrArg (f x >>= ·) (funext (passOut_cons l layers x))

/-- A call under layers of checks comes to what its layers say in turn. -/
theorem guardAll_eq_answer : guardAll layers f x = answer layers f x := by
  induction layers generalizing f with
  | nil => exact (bind_pure (f x)).symm
  | cons l layers ih =>
    rw [guardAll, ih, answer_cons]
    exact congrArg (answer layers · x) (funext (guard_eq_answer l f))

/-- The same layer twice is that layer once. -/
theorem answer_twice : answer [l, l] f x = answer [l] f x := by
  have hin : ∀ v, refusal? [l, l] v = refusal? [l] v := by
    intro v
    rw [refusal?_cons, refusal?_cons]
    cases l.signature.input.validate v with
    | some m => rfl
    | none => rfl
  have hout : ∀ v, discard? [l, l] v = discard? [l] v := by
    intro v
    unfold discard?
    rw [List.findSome?_cons, List.findSome?_singleton]
    cases l.signature.output.validate v with
    | some m => rfl
    | none => rfl
  have hpass : passOut [l, l] x = passOut [l] x := by
    funext r
    rw [passOut, passOut, hout]
  rw [answer, answer, hin, hpass]

end

end Layer

/-! ## Wrapped functions -/

/-- A function with a qualified name is known by it. -/
theorem Callable.label_eq {f : Callable} {n : String} (h : f.qualifiedName = some n)
    (hn : n ≠ "") : f.label = n := by
  simp [label, h, hn]

namespace Library

/-- Wraps a function into a checked one for each signature in turn. -/
def wrapAll (lib : Library) : List Signature → Callable → Library × Callable
  | [], f => (lib, f)
  | s :: signatures, f =>
    let (lib, g) := lib.wrap s f
    wrapAll lib signatures g

/-- The layers around a function that is wrapped for each signature in turn. -/
def layers (lib : Library) : List Signature → Callable → List Layer
  | [], _ => []
  | s :: signatures, f => ⟨s, f.label⟩ :: layers (lib.wrap s f).1 signatures (lib.wrap s f).2

/-- Wrapping leaves the functions as they are that were defined before. -/
theorem definitions_wrapAll (signatures : List Signature) {lib : Library} {f : Callable}
    {handle : Nat} {d : Definition} (h : lib.definitions[handle]? = some d) :
    (lib.wrapAll signatures f).1.definitions[handle]? = some d := by
  induction signatures generalizing lib f with
  | nil => exact h
  | cons s signatures ih =>
    obtain ⟨hlt, -⟩ := Array.getElem?_eq_some_iff.mp h
    refine ih ?_
    show (lib.definitions.push (.guarded s f))[handle]? = some d
    rw [Array.getElem?_push, if_neg (Nat.ne_of_lt hlt), h]

/-- A checked function is called under its signature. -/
theorem applyWithin_of_guarded {lib : Library} {f g : Callable} {s : Signature}
    (h : lib.definition? g = some (.guarded s f)) (depth : Nat) (x : Traced) :
    lib.applyWithin (depth + 1) g [x] =
      s.guard f.label (fun y => lib.applyWithin depth f [y]) x := by
  cases g with
  | builtin => cases h
  | defined => simp only [applyWithin, h]

/-- A wrapped function is called under its layers.  Each layer takes one of
the calls that may nest. -/
theorem applyWithin_wrapAll (signatures : List Signature) (lib : Library) (f : Callable)
    (depth : Nat) (x : Traced) :
    (lib.wrapAll signatures f).1.applyWithin (depth + signatures.length)
        (lib.wrapAll signatures f).2 [x] =
      Layer.guardAll (lib.layers signatures f)
        (fun y => (lib.wrapAll signatures f).1.applyWithin depth f [y]) x := by
  induction signatures generalizing lib f depth with
  | nil => rfl
  | cons s signatures ih =>
    have hwrapped : (lib.wrap s f).1.definitions[lib.definitions.size]? = some (.guarded s f) := by
      show (lib.definitions.push (.guarded s f))[lib.definitions.size]? = _
      rw [Array.getElem?_push_size]
    have hdefinition : (lib.wrapAll (s :: signatures) f).1.definition? (lib.wrap s f).2 =
      some (.guarded s f) := definitions_wrapAll signatures hwrapped
    have hlength : depth + (s :: signatures).length = (depth + 1) + signatures.length := by
      rw [List.length_cons]
      omega
    rw [hlength]
    refine (ih (lib.wrap s f).1 (lib.wrap s f).2 (depth + 1)).trans ?_
    exact congrArg (Layer.guardAll (layers (lib.wrap s f).1 signatures (lib.wrap s f).2) · x)
      (funext (applyWithin_of_guarded hdefinition depth))

/-- Layers around a function with a qualified name all know it by that name. -/
theorem layers_eq_map (signatures : List Signature) (lib : Library) {f : Callable} {n : String}
    (h : f.qualifiedName = some n) (hn : n ≠ "") :
    lib.layers signatures f = signatures.map fun s => ⟨s, n⟩ := by
  induction signatures generalizing lib f with
  | nil => rfl
  | cons s signatures ih =>
    have hwrapped : (lib.wrap s f).2.qualifiedName = some n := h
    rw [layers, List.map_cons, Callable.label_eq h hn, ih (lib.wrap s f).1 hwrapped]

/-- A function wrapped for each signature in turn answers a call as its
layers say: the outermost to reject the argument, else the function, called
once, else the innermost to reject the result.  To wrap a function with a
qualified name twice for one signature is to wrap it once. -/
theorem wrapAll_answers (lib : Library) (signatures : List Signature) (f : Callable)
    (depth : Nat) (x : Traced) :
    (lib.wrapAll signatures f).1.applyWithin (depth + signatures.length)
        (lib.wrapAll signatures f).2 [x] =
      Layer.answer (lib.layers signatures f)
        (fun y => (lib.wrapAll signatures f).1.applyWithin depth f [y]) x ∧
    ∀ s n, f.qualifiedName = some n → n ≠ "" →
      let once := lib.wrap s f
      let twice := once.1.wrap s once.2
      twice.2.label = once.2.label ∧ twice.2.written = once.2.written ∧
        twice.1.applyWithin (depth + 2) twice.2 [x] =
          twice.1.applyWithin (depth + 1) once.2 [x] := by
  refine ⟨(applyWithin_wrapAll signatures lib f depth x).trans
    (Layer.guardAll_eq_answer _ _ x), ?_⟩
  intro s n h hn once twice
  have hf : f.label = n := Callable.label_eq h hn
  have honce : once.2.label = n := Callable.label_eq (f := once.2) h hn
  have htwice : twice.2.label = n := Callable.label_eq (f := twice.2) h hn
  have hwrapped : once.1.definitions[lib.definitions.size]? = some (.guarded s f) :=
    Array.getElem?_push_size
  have hdefinition : twice.1.definition? once.2 = some (.guarded s f) :=
    definitions_wrapAll [s] (f := once.2) hwrapped
  refine ⟨htwice.trans honce.symm, ?_, ?_⟩
  · show s.written once.2 = s.written f
    rw [Signature.written, Signature.written, honce, hf]
  · calc twice.1.applyWithin (depth + 2) twice.2 [x]
      _ = Layer.answer (lib.layers [s, s] f) (fun y => twice.1.applyWithin depth f [y]) x :=
          (applyWithin_wrapAll [s, s] lib f depth x).trans (Layer.guardAll_eq_answer _ _ x)
      _ = Layer.answer [⟨s, n⟩, ⟨s, n⟩] (fun y => twice.1.applyWithin depth f [y]) x := by
          rw [layers_eq_map [s, s] lib h hn]
          rfl
      _ = Layer.answer [⟨s, n⟩] (fun y => twice.1.applyWithin depth f [y]) x :=
          Layer.answer_twice ⟨s, n⟩ _ x
      _ = s.guard f.label (fun y => twice.1.applyWithin depth f [y]) x := by
          rw [← Layer.guard_eq_answer ⟨s, n⟩, hf]
      _ = twice.1.applyWithin (depth + 1) once.2 [x] :=
          (applyWithin_of_guarded hdefinition depth x).symm

/-- A library with a function that hands on what it is given. -/
def sameLibrary : Library :=
  { definitions := #[.host fun args => args.head?.elim (Run.raise (.intrinsic .type)) pure] }

/-- The function of `sameLibrary`. -/
def same : Callable := .defined 0 (some "same") (some "same") "<function same>"

/-- What is too large for the inner of two layers gets past the outer. -/
theorem wrapAll_answers_same :
    let layer kind : Signature := ⟨none, .ofInteger kind, .ofInteger kind⟩
    let m : Mismatch := ⟨[], .ofInteger .uint8, .int 300, "out of range [0, 255]"⟩
    let wrapped := sameLibrary.wrapAll [layer .uint8, layer .uint16] same
    same.qualifiedName = some "same" ∧ "same" ≠ "" ∧
      wrapped.1.applyWithin 3 wrapped.2 [.fresh (.int 300)] =
        ⟨.error (.of (.argument m "same" (.int 300) .made)),
          [Layer.rejection ⟨layer .uint8, "same"⟩ "argument_rejected" m]⟩ ∧
      let once := sameLibrary.wrap (layer .uint8) same
      let twice := once.1.wrap (layer .uint8) once.2
      twice.1.applyWithin 3 twice.2 [.fresh (.int 300)] =
        twice.1.applyWithin 2 once.2 [.fresh (.int 300)] := by
  intro layer m wrapped
  obtain ⟨hanswer, htwice⟩ := wrapAll_answers sameLibrary [layer .uint8, layer .uint16] same 1
    (.fresh (.int 300))
  obtain ⟨-, -, htwice⟩ := htwice (layer .uint8) "same" rfl (by decide)
  exact ⟨rfl, by decide, hanswer.trans rfl, htwice⟩

end Library

end Conformance
