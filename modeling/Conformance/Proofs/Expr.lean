import Conformance.Library
import Conformance.Proofs.Run

/-!
# Conformance.Proofs.Expr

What expressions and calls come to.

For each form of expression there is an equation for its outcome, which is a
result or the first fault on the way; the effects are left out.  With the
outcomes of the parts put in, the equation computes.  A call of a function
with a body comes to what its body comes to
(`Library.exists_outcome_of_body`).
-/

namespace Conformance

/-- An error becomes a fault that is raised. -/
theorem Run.outcome_ofExcept {α : Type} (e : Except Error α) :
    (Run.ofExcept e).outcome = e.mapError Fault.of := by
  cases e <;> rfl

namespace Expr

variable (call : String → Traced → Run Traced) (args : List Traced)

/-- An argument is looked up as an item of the arguments, from either end. -/
theorem outcome_arg (i : Int) :
    (eval call args (.arg i)).outcome = (Value.itemOf args i).mapError Fault.of :=
  Run.outcome_ofExcept _

/-- A literal stands for itself and counts as given. -/
theorem outcome_lit (v : Value) : (eval call args (.lit v)).outcome = .ok (.whole v .given) := rfl

/-- The condition decides which of the two is evaluated; the other is not. -/
theorem outcome_ite (condition yes no : Expr) :
    (eval call args (.ite condition yes no)).outcome =
      (eval call args condition).outcome >>= fun c =>
        (eval call args (if c.value.truthy then yes else no)).outcome := by
  refine (Run.outcome_bind (eval call args condition) _).trans ?_
  refine congrArg (_ >>= ·) (funext fun c => ?_)
  split
  · rfl
  · rfl

/-- A call evaluates its argument first. -/
theorem outcome_call (name : String) (argument : Expr) :
    (eval call args (.call name argument)).outcome =
      (eval call args argument).outcome >>= fun x => (call name x).outcome :=
  Run.outcome_bind (eval call args argument) _

/-- Operands are evaluated from left to right, and the first fault is the outcome. -/
theorem outcome_binary (op : Operation) (left right : Expr) :
    (eval call args (.binary op left right)).outcome =
      (eval call args left).outcome >>= fun a =>
        (eval call args right).outcome >>= fun b => (op.apply a b).mapError Fault.of := by
  refine (Run.outcome_bind (eval call args left) _).trans ?_
  refine congrArg (_ >>= ·) (funext fun a => ?_)
  rw [Run.outcome_bind]
  exact congrArg (_ >>= ·) (funext fun b => Run.outcome_ofExcept _)

theorem outcome_evalAll_nil : (evalAll call args []).outcome = .ok [] := rfl

/-- Several expressions are evaluated in their order. -/
theorem outcome_evalAll_cons (e : Expr) (es : List Expr) :
    (evalAll call args (e :: es)).outcome =
      (eval call args e).outcome >>= fun t =>
        (evalAll call args es).outcome >>= fun ts => .ok (t :: ts) := by
  refine (Run.outcome_bind (eval call args e) _).trans ?_
  refine congrArg (_ >>= ·) (funext fun t => ?_)
  rw [Run.outcome_bind]
  rfl

/-- A tuple is made of the outcomes of its items. -/
theorem outcome_tuple (items : List Expr) :
    (eval call args (.tuple items)).outcome =
      (evalAll call args items).outcome >>= fun ts => .ok (.tuple ts) :=
  Run.outcome_bind (evalAll call args items) _

/-- The greatest is taken after all operands have been evaluated. -/
theorem outcome_greatest (operands : List Expr) :
    (eval call args (.greatest operands)).outcome =
      (evalAll call args operands).outcome >>= fun ts =>
        (Traced.extremeOf .gt ts).mapError Fault.of := by
  refine (Run.outcome_bind (evalAll call args operands) _).trans ?_
  exact congrArg (_ >>= ·) (funext fun ts => Run.outcome_ofExcept _)

end Expr

/-! ## Calls -/

/-- An argument that does not conform is rejected, and the function is not asked. -/
theorem Signature.outcome_guard_of_refused {s : Signature} {function : String}
    {f : Traced → Run Traced} {x : Traced} {m : Mismatch} (h : s.input.validate x.value = some m) :
    (s.guard function f x).outcome = .error (.of (.argument m function x.value x.origin)) := by
  unfold guard
  rw [h]
  rfl

/-- If argument and result conform, the guard does not show. -/
theorem Signature.outcome_guard_of_passed {s : Signature} {function : String}
    {f : Traced → Run Traced} {x r : Traced} (h : s.input.validate x.value = none)
    (hf : (f x).outcome = .ok r) (hr : s.output.validate r.value = none) :
    (s.guard function f x).outcome = .ok r := by
  unfold guard
  rw [h]
  simp only
  rw [Run.bind_of_ok hf, hr]
  rfl

/-- A function with a body comes to what the body comes to. -/
theorem Library.exists_outcome_of_body {lib : Library} {f : Callable} {countedAs : String}
    {doc : Option String} {body : Expr} (h : lib.definition? f = some (.body countedAs doc body))
    (depth : Nat) (args : List Traced) :
    ∃ call : String → Traced → Run Traced,
      (∀ name g, lib.names.lookup name = some (.function g) →
        ∀ x, call name x = lib.applyWithin depth g [x]) ∧
      (lib.applyWithin (depth + 1) f args).outcome = (body.eval call args).outcome := by
  cases f with
  | builtin => cases h
  | defined handle name qualifiedName text =>
    simp only [applyWithin, h]
    refine ⟨_, ?_, rfl⟩
    intro name g hname x
    rw [hname]

end Conformance
