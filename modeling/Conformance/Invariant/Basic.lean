import Conformance.Library

/-!
# Conformance.Invariant.Basic

A declared invariant: a predicate over sampled arguments, one for each of
several descriptors, with a budget of trials.

`Declaration` is what was written down, where any value may stand anywhere;
`Declaration.invariant` checks it: first the descriptors from left to right,
then the predicate, then the budget.
-/

namespace Conformance

/-- A predicate over a tuple of values.  It answers for the tuple and may log
and call on the way, but it cannot change the tuple: what is drawn stays what
is reported. -/
abbrev Predicate := List Value → Run Value

/-- Whether the predicate holds of a tuple.  If it raises, it does not. -/
def Predicate.accepts (p : Predicate) (values : List Value) : Run Bool :=
  let tried := p values
  match tried.outcome with
  | .ok v => ⟨.ok v.truthy, tried.effects⟩
  | .error fault =>
    if fault.isOrdinary then ⟨.ok false, tried.effects⟩ else ⟨.error fault, tried.effects⟩

/-- The predicate that a function is: it is called with the values of the
tuple as its arguments. -/
def Library.predicate (lib : Library) (f : Callable) : Predicate := fun values =>
  let called := lib.apply f (Traced.arguments values)
  ⟨called.outcome.map Traced.value, called.effects⟩

/-- An invariant to be checked. -/
structure Invariant where
  label : String
  descriptors : List Descriptor
  predicate : Predicate
  budget : Nat

/-- An invariant as it was written down. -/
structure Declaration where
  /-- one descriptor, or a sequence of them -/
  descriptors : Value
  predicate : Value
  /-- the budget; the default one for nothing -/
  trials : Value := .nothing
  /-- the name; that of the predicate if it is empty -/
  name : String := ""
deriving Repr, Inhabited

namespace Declaration

/-- The descriptors among values, refused at the first value that is none;
`i` values came before. -/
def checkDescriptors : (i : Nat) → List Value → Except Error (List Descriptor)
  | _, [] => .ok []
  | i, .descriptor d :: vs => (checkDescriptors (i + 1) vs).map (d :: ·)
  | i, v :: _ =>
    .error (.descriptor
      ("forall argument " ++ toString (i + 1) ++ " must be a TypeDescriptor, got " ++ v.written))

/-- The descriptors of a declaration. -/
def descriptorList (v : Value) : Except Error (List Descriptor) :=
  match v with
  | .descriptor d => .ok [d]
  | v =>
    match v.items? with
    | some items => checkDescriptors 0 items
    | none => .error (.intrinsic .type)

/-- The predicate of a declaration. -/
def function (v : Value) : Except Error Callable :=
  match v with
  | .function f => .ok f
  | v =>
    .error (.foreign "TypeError" (some ("forall predicate must be callable, got " ++ v.written)))

/-- The budget of a declaration: a positive integer, the default one if none
is stated. -/
def budget (defaultTrials : Int) (trials : Value) : Except Error Nat :=
  let refused := .error (.foreign "ValueError"
    (some ("trials must be a positive integer, got " ++ trials.written)))
  match trials with
  | .nothing => if 0 < defaultTrials then .ok defaultTrials.toNat else refused
  | .int n => if 0 < n then .ok n.toNat else refused
  | _ => refused

/-- What stands for the name of a function without one. -/
def anonymous : String := "<lambda>"

/-- What an invariant is called: the name stated, else that of the predicate.
A predicate without a name of its own is called by its descriptors. -/
def label (name : String) (f : Callable) (ds : List Descriptor) : String :=
  let own := f.name.getD ""
  let label := if !name.isEmpty then name else if !own.isEmpty then own else "invariant"
  if label = anonymous then
    "forall(" ++ Descriptor.commaSeparated (ds.map Descriptor.render) ++ ")"
  else label

/-- The invariant that a declaration states; `predicate` says what functions do. -/
def invariant (predicate : Callable → Predicate) (defaultTrials : Int) (d : Declaration) :
    Except Error Invariant := do
  let descriptors ← descriptorList d.descriptors
  let f ← function d.predicate
  let budget ← budget defaultTrials d.trials
  .ok ⟨label d.name f descriptors, descriptors, predicate f, budget⟩

end Declaration

end Conformance
