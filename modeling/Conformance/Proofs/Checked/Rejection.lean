import Conformance.Library
import Conformance.Proofs.Run
import Conformance.Proofs.Traced

/-!
# Conformance.Proofs.Checked.Rejection

What it means that a call ended because a checked function rejected its
argument.

A `Rejection` is the error of a checked function that was called with an
object which knows where among the arguments of the call under way it comes
from.  However deep calls of checked functions nest, and whatever is done to
the arguments on the way, a call of a function of a library ends with no
other rejected argument (`Library.ends_applyWithin`), but for

1. errors that bodies raise by hand, which `Library.raises` lists;
2. what code of the program does that the declarations are part of, of which
   `Library.Honest` says that it keeps to this.
-/

namespace Conformance

open Traced

/-! ## How runs end -/

/-- A run comes to a result with a property or ends with an error of a kind,
unless a draw is given up. -/
def Run.Ends {α : Type} (post : α → Prop) (raised : Error → Prop) (r : Run α) : Prop :=
  match r.outcome with
  | .ok a => post a
  | .error (.raised e _) => raised e
  | .error .unfinished => True

namespace Run

variable {α β : Type} {P : α → Prop} {Q : β → Prop} {E : Error → Prop}

theorem ends_pure {a : α} (h : P a) : (pure a : Run α).Ends P E := h

/-- What is raised by hand is allowed if its error is. -/
theorem ends_raise {e : Error} (h : E e) : (raise e : Run α).Ends P E := h

/-- A result that is no rejected argument ends a run as allowed. -/
theorem ends_ofExcept (hE : ∀ e, e.isRefusal = false → E e) {x : Except Error α}
    (h : Answers P x) : (ofExcept x).Ends P E := by
  cases x with
  | ok a => exact h
  | error e => exact hE e h

/-- Runs in a row end as allowed if each one does. -/
theorem Ends.bind {r : Run α} {f : α → Run β} (hr : r.Ends P E)
    (hf : ∀ a, P a → (f a).Ends Q E) : (r >>= f).Ends Q E := by
  unfold Ends at hr
  rcases h : r.outcome with fault | a
  · rw [h] at hr
    rw [Ends, bind_of_error h]
    cases fault with
    | raised e ticket => exact hr
    | unfinished => trivial
  · rw [h] at hr
    rw [Ends, bind_of_ok h]
    exact hf a hr

/-- More errors may be allowed. -/
theorem Ends.imp {E' : Error → Prop} {r : Run α} (h : r.Ends P E) (hE : ∀ e, E e → E' e) :
    r.Ends P E' := by
  unfold Ends at h ⊢
  split
  · next ho => simpa only [ho] using h
  · next ho => exact hE _ (by simpa only [ho] using h)
  · trivial

/-- What is raised is one of the errors that are allowed. -/
theorem Ends.raised {r : Run α} (h : r.Ends P E) {e : Error} {ticket : Option Ticket}
    (ho : r.outcome = .error (.raised e ticket)) : E e := by
  rw [Ends, ho] at h
  exact h

end Run

/-! ## Rejections -/

/-- The error of a checked function whose argument does not conform to its
input, and which knows where among `args` that argument comes from. -/
inductive Rejection (args : List Value) : Error → Prop
  | intro {s : Signature} {x : Traced} {m} (function : String) (hx : x.Faithful args)
    (hm : s.input.validate x.value = some m) :
    Rejection args (.argument m function x.value x.origin)

/-- An error that is no rejected argument, or is one as it should be. -/
def Rejects (args : List Value) (byHand : List Error) (e : Error) : Prop :=
  e.isRefusal → e ∈ byHand ∨ Rejection args e

/-- An error by which no argument is rejected is always allowed. -/
theorem rejects_of_not_isRefusal {args : List Value} {byHand : List Error} (e : Error)
    (h : e.isRefusal = false) : Rejects args byHand e := by
  intro hrefusal
  rw [h] at hrefusal
  cases hrefusal

namespace Signature

variable {args : List Value} {byHand : List Error}

/-- A checked function rejects its argument, or does what the function does. -/
theorem ends_guard (s : Signature) (function : String) {f : Traced → Run Traced}
    (hf : ∀ x, x.Faithful args → (f x).Ends (Faithful args) (Rejects args byHand)) {x : Traced}
    (hx : x.Faithful args) :
    (s.guard function f x).Ends (Faithful args) (Rejects args byHand) := by
  have hlog (event : String) (m : Mismatch) : (logRejection event function m).Ends
      (fun _ => True) (Rejects args byHand) := trivial
  unfold guard
  split
  · next m hm =>
    exact (hlog _ m).bind fun _ _ => Run.ends_raise fun _ => .inr (.intro function hx hm)
  · refine (hf x hx).bind fun r hr => ?_
    split
    · next m hm => exact (hlog _ m).bind fun _ _ => Run.ends_raise (rejects_of_not_isRefusal _ rfl)
    · exact Run.ends_pure hr

end Signature

/-! ## Bodies -/

namespace Expr

mutual
/-- The errors that an expression raises by hand. -/
def raises : Expr → List Error
  | arg _ | lit _ => []
  | ite condition yes no => condition.raises ++ yes.raises ++ no.raises
  | raise e => [e]
  | .call _ operand | unary _ operand => operand.raises
  | binary _ left right => left.raises ++ right.raises
  | and operands | or operands | list operands | tuple operands | dict operands
  | least operands | greatest operands => raisesAny operands
/-- The errors that expressions raise by hand. -/
def raisesAny : List Expr → List Error
  | [] => []
  | e :: es => e.raises ++ raisesAny es
end

/-- What an expression is evaluated with: arguments that know where they come
from, and calls that reject no others. -/
structure Setting (args : List Value) (byHand : List Error) (call : String → Traced → Run Traced)
    (ts : List Traced) : Prop where
  calls : ∀ name x, x.Faithful args → (call name x).Ends (Faithful args) (Rejects args byHand)
  arguments : ∀ t ∈ ts, t.Faithful args

variable {args : List Value} {byHand : List Error} {call : String → Traced → Run Traced}
variable {ts : List Traced}

mutual
/-- An expression over faithful arguments comes to a faithful value, or it
ends with an error that it raises, that an operation makes, or with which a
call in it ends. -/
theorem ends_eval (hs : Setting args byHand call ts) : (e : Expr) →
    (∀ error ∈ e.raises, error ∈ byHand) →
    (e.eval call ts).Ends (Faithful args) (Rejects args byHand)
  | arg i, _ => Run.ends_ofExcept rejects_of_not_isRefusal (Value.answers_itemOf hs.arguments i)
  | lit v, _ => Run.ends_pure (.whole trivial)
  | ite condition yes no, h => by
      simp only [raises, List.forall_mem_append] at h
      obtain ⟨⟨hcondition, hyes⟩, hno⟩ := h
      refine (ends_eval hs condition hcondition).bind fun c _ => ?_
      split
      · exact ends_eval hs yes hyes
      · exact ends_eval hs no hno
  | and operands, h => ends_evalWhile hs true operands h
  | or operands, h => ends_evalWhile hs false operands h
  | raise e, h => Run.ends_raise fun _ => .inl (h e (List.mem_singleton_self e))
  | .call name operand, h => (ends_eval hs operand h).bind fun x hx => hs.calls name x hx
  | list items, h => (ends_evalAll hs items h).bind fun us hus => Run.ends_pure (.list hus)
  | tuple items, h => (ends_evalAll hs items h).bind fun us hus => Run.ends_pure (.tuple hus)
  | dict parts, h => (ends_evalAll hs parts h).bind fun us hus =>
      (Run.ends_ofExcept rejects_of_not_isRefusal (faithful_ofPairs hus)).bind fun entries he =>
        Run.ends_pure (faithful_ofEntries he)
  | unary f operand, h => (ends_eval hs operand h).bind fun t ht =>
      Run.ends_ofExcept rejects_of_not_isRefusal (f.faithful_apply ht)
  | binary op left right, h => by
      simp only [raises, List.forall_mem_append] at h
      exact (ends_eval hs left h.1).bind fun a ha => (ends_eval hs right h.2).bind fun b hb =>
        Run.ends_ofExcept rejects_of_not_isRefusal (op.faithful_apply ha hb)
  | least operands, h => (ends_evalAll hs operands h).bind fun us hus =>
      Run.ends_ofExcept rejects_of_not_isRefusal (faithful_extremeOf .lt hus)
  | greatest operands, h => (ends_evalAll hs operands h).bind fun us hus =>
      Run.ends_ofExcept rejects_of_not_isRefusal (faithful_extremeOf .gt hus)

/-- Expressions in a row reject what each of them rejects. -/
theorem ends_evalAll (hs : Setting args byHand call ts) : (es : List Expr) →
    (∀ error ∈ raisesAny es, error ∈ byHand) →
    (evalAll call ts es).Ends (fun us => ∀ u ∈ us, u.Faithful args) (Rejects args byHand)
  | [], _ => Run.ends_pure nofun
  | e :: es, h => by
      simp only [raisesAny, List.forall_mem_append] at h
      exact (ends_eval hs e h.1).bind fun t ht => (ends_evalAll hs es h.2).bind fun us hus =>
        Run.ends_pure (List.forall_mem_cons.mpr ⟨ht, hus⟩)

/-- Expressions that are evaluated only while they count as `wanted` reject what
each of them rejects. -/
theorem ends_evalWhile (hs : Setting args byHand call ts) (wanted : Bool) : (es : List Expr) →
    (∀ error ∈ raisesAny es, error ∈ byHand) →
    (evalWhile call ts wanted es).Ends (Faithful args) (Rejects args byHand)
  | [], _ => Run.ends_pure (faithful_fresh _)
  | [e], h => by
      simp only [raisesAny, List.forall_mem_append] at h
      exact ends_eval hs e h.1
  | e :: e' :: es, h => by
      rw [raisesAny, List.forall_mem_append] at h
      refine (ends_eval hs e h.1).bind fun t ht => ?_
      split
      · exact ends_evalWhile hs wanted (e' :: es) h.2
      · exact Run.ends_pure ht
end

end Expr

/-! ## Libraries -/

namespace Library

/-- The errors that the bodies of a library raise by hand. -/
def raises (lib : Library) : List Error :=
  lib.definitions.toList.flatMap fun d =>
    match d with
    | .body _ _ body => body.raises
    | _ => []

/-- Code of the program, called with objects that know where they come from,
hands on such objects and raises no other rejected argument. -/
def Honest (lib : Library) : Prop :=
  ∀ run, .host run ∈ lib.definitions.toList → ∀ args ts, (∀ t ∈ ts, t.Faithful args) →
    (run ts).Ends (Faithful args) (Rejects args [])

variable {lib : Library} {args : List Value}

/-- What a name stands for is one of the definitions of the library. -/
theorem mem_of_definition? {f : Callable} {d : Definition} (h : lib.definition? f = some d) :
    d ∈ lib.definitions.toList := by
  cases f with
  | builtin => cases h
  | defined handle name qualifiedName text =>
    exact Array.mem_toList_iff.mpr (Array.mem_of_getElem? h)

/-- Calls of functions of a library end with a faithful result or with an
error that is no rejected argument, that a body raises by hand, or that is a
rejection.  The induction is on how deep calls may nest. -/
theorem ends_applyWithin (hlib : lib.Honest) (depth : Nat) (f : Callable) {ts : List Traced}
    (hts : ∀ t ∈ ts, t.Faithful args) :
    (lib.applyWithin depth f ts).Ends (Faithful args) (Rejects args lib.raises) := by
  induction depth generalizing f ts with
  | zero => exact Run.ends_raise (rejects_of_not_isRefusal _ rfl)
  | succ depth ih =>
    have htype : (Run.raise (.intrinsic .type) : Run Traced).Ends (Faithful args)
        (Rejects args lib.raises) := Run.ends_raise (rejects_of_not_isRefusal _ rfl)
    unfold applyWithin
    split
    · next g => exact Run.ends_ofExcept rejects_of_not_isRefusal (g.faithful_apply hts)
    · next countedAs doc body _ hbody =>
      refine Run.Ends.bind (α := Unit) (P := fun _ => True) trivial fun _ _ => ?_
      refine Expr.ends_eval ⟨?_, hts⟩ body ?_
      · intro name x hx
        split
        · next g _ => exact ih g (List.forall_mem_singleton.mpr hx)
        · exact htype
        · exact Run.ends_raise (rejects_of_not_isRefusal _ rfl)
      · intro e he
        exact List.mem_flatMap.mpr ⟨_, mem_of_definition? hbody, he⟩
    · next s g _ _ =>
      split
      · next x =>
        exact s.ends_guard g.label (fun y hy => ih g (List.forall_mem_singleton.mpr hy))
          (hts x List.mem_cons_self)
      · exact htype
    · next run _ hrun =>
      exact (hlib run (mem_of_definition? hrun) args ts hts).imp fun e he hrefusal =>
        (he hrefusal).imp nofun id
    · exact htype

/-- A predicate that a library defines ends with no other rejected argument
than a checked function's, or one that is raised by hand. -/
theorem rejects_of_predicate (hlib : lib.Honest) {f : Callable} {values : List Value} {e : Error}
    {ticket : Option Ticket} (h : (lib.predicate f values).outcome = .error (.raised e ticket)) :
    Rejects values lib.raises e := by
  have hends := lib.ends_applyWithin hlib callDepth f (faithful_arguments values)
  have hcalled : (lib.applyWithin callDepth f (arguments values)).outcome =
      .error (.raised e ticket) := by
    rcases ho : (lib.applyWithin callDepth f (arguments values)).outcome with fault | t
    · rw [predicate, apply, ho] at h
      exact congrArg _ (Except.error.inj h)
    · rw [predicate, apply, ho] at h
      cases h
  exact hends.raised hcalled

end Library

end Conformance
