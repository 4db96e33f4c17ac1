import Conformance.Descriptor.Navigate
import Conformance.Generate
import Conformance.Invariant.Basic

/-!
# Conformance.Invariant.Blame

Which part of a falsifying tuple is to blame.

* If the predicate was merely false, each leaf of each argument is redrawn,
  the rest of the tuple held fixed, in the order of arguments and leaves; the
  first leaf at which some redraw makes the predicate hold is reported.
* If a checked function rejected its argument, and that argument is one of
  the drawn values, the rejected part of that value is reported.  Small
  integers, labels and the like are one object wherever they occur, so
  several drawn values can be that argument: then the one is reported at
  which redrawing points as well.

The redraws have a source of their own, which the trial seed determines.
-/

namespace Conformance

/-- An argument and a path into it. -/
abbrev Blame := Nat × Path

/-! ## Redrawing -/

/-- A computation that draws from a source as it goes along. -/
abbrev Search (α : Type) := StateT Twister Run α

/-- Draws a value. -/
def Search.draw {α : Type} (d : Draw α) : Search α := fun source =>
  match d.runFrom source with
  | (.ok a, source) => pure (a, source)
  | (.error fault, _) => throw fault

/-- A leaf of a tuple: the argument it belongs to and the path to it. -/
structure Leaf where
  argument : Nat
  descriptor : Descriptor
  value : Value
  path : Path
deriving Repr

/-- The leaves of a tuple, argument by argument. -/
def Leaf.all (ds : List Descriptor) (values : List Value) : List Leaf :=
  (ds.zip values).zipIdx.flatMap fun a =>
    a.1.1.leafPaths.map fun leaf => ⟨a.2, a.1.1, a.1.2, leaf.1⟩

/-- Whether one of so many redraws of a leaf makes the predicate hold. -/
def Leaf.redrawHolds (s : Sampling) (p : Predicate) (values : List Value) (leaf : Leaf) :
    (attempts : Nat) → Search Bool
  | 0 => pure false
  | attempts + 1 => do
    let v ← Search.draw (leaf.descriptor.generateAt s leaf.path leaf.value)
    if ← p.accepts (values.set leaf.argument v) then pure true
    else redrawHolds s p values leaf attempts

/-- The first leaf at which a redraw makes the predicate hold. -/
def Leaf.firstToHold (s : Sampling) (attempts : Nat) (p : Predicate) (values : List Value) :
    List Leaf → Search (Option Blame)
  | [] => pure none
  | leaf :: leaves => do
    if ← leaf.redrawHolds s p values attempts then pure (some (leaf.argument, leaf.path))
    else firstToHold s attempts p values leaves

/-- What sets the seed of the redraws apart from the trial seed. -/
def redrawSalt : Nat := 0x5EED10CA11E5

/-- The source of the redraws of a trial. -/
def redrawSource (trialSeed : Nat) : Twister := Twister.ofSeed (trialSeed ^^^ redrawSalt)

/-- The part of a tuple whose redraw makes the predicate hold, if it is searched for. -/
def localize (c : Checking) (s : Sampling) (p : Predicate) (ds : List Descriptor)
    (values : List Value) (trialSeed : Nat) : Run (Option Blame) :=
  if c.localizeFailures then do
    let found ← Leaf.firstToHold s c.localizationAttempts p values (Leaf.all ds values)
      (redrawSource trialSeed)
    pure found.1
  else pure none

/-! ## Objects -/

/-- The descriptor of a part of a value. -/
def Descriptor.along : Descriptor → List Step → Option Descriptor
  | d, [] => some d
  | struct _ fields, .key (.str n) :: steps => (field? fields n).bind fun d => along d steps
  | pair _ first second, .key k :: steps =>
    match k.integer? with
    | some 0 | some (-2) => along first steps
    | some 1 | some (-1) => along second steps
    | _ => none
  | vector _ _ element, .key _ :: steps => along element steps
  | maybe _ inner, .inner :: steps => along inner steps
  | _, _ => none

namespace Origin

/-- Whether text of this origin is written in the declarations: on its own,
or as a label of an enum. -/
def isWritten (ds : List Descriptor) : Origin → Bool
  | given => true
  | made => false
  | argument i steps =>
    match ds[i]?.bind fun d => d.along steps with
    | some (.enum ..) => true
    | _ => false

/-- Text that exists once however it comes about: the empty text, and a single
character of the first 256. -/
def isShared (s : String) : Bool := s.length ≤ 1 && s.toList.all (·.toNat < 256)

/-- Whether the `i`-th drawn value is the object `w` of this origin: because
it was passed on untouched, or because the two are equal and of a kind that
exists once. -/
def isDrawn (ds : List Descriptor) (i : Nat) (v w : Value) (o : Origin) : Bool :=
  passedOn || existsOnce
where
  passedOn : Bool :=
    match o with
    | argument j [] => i == j
    | _ => false
  existsOnce : Bool :=
    match v, w with
    | .nothing, .nothing => true
    | .bool b, .bool c => b == c
    | .int n, .int m => n == m && -5 ≤ n && n ≤ 256
    | .str s, .str t =>
      s == t && (isShared s || (isWritten ds (argument i []) && isWritten ds o))
    | _, _ => false

end Origin

/-- The drawn values that are a rejected argument and conform themselves. -/
def holders (ds : List Descriptor) (values : List Value) (w : Value) (o : Origin) : List Nat :=
  ((ds.zip values).zipIdx.filter fun a =>
    o.isDrawn ds a.2 a.1.2 w && a.1.1.conforms a.1.2).map (·.2)

/-- The part of a tuple that a raised error points at. -/
def attribution (c : Checking) (s : Sampling) (p : Predicate) (ds : List Descriptor)
    (values : List Value) (trialSeed : Nat) (e : Error) : Run (Option Blame) :=
  match e with
  | .argument m _ w o =>
    match holders ds values w o with
    | [] => pure none
    | [i] => pure (some (i, m.path))
    | several => do
      match ← localize c s p ds values trialSeed with
      | some (i, _) => pure (if several.contains i then some (i, m.path) else none)
      | none => pure none
  | _ => pure none

end Conformance
