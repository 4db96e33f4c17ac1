import Conformance.Descriptor.Navigate
import Conformance.Invariant.Report

/-!
# Conformance.Failure

Failures as they are handed to reporters: every part is text already.  A
failure tells the most specific of

1. where a value did not conform, what was expected there and what was found;
2. the implicated part of a counterexample, what its descriptor says and
   what was drawn there;
3. the whole tuple of a counterexample.
-/

namespace Conformance

namespace Failure

/-- The kinds of failures. -/
inductive Kind
  | descriptor | argument | result | violation | unsupported
  /-- an error from outside this library -/
  | load
deriving DecidableEq, Repr, Inhabited

namespace Kind

def text : Kind → String
  | descriptor => "descriptor_error"
  | argument => "argument_type_error"
  | result => "return_type_error"
  | violation => "invariant_violation"
  | unsupported => "unsupported_generation"
  | load => "load_error"

def all : List Kind := [descriptor, argument, result, violation, unsupported, load]

/-- The kind written `s`. -/
def ofText? (s : String) : Option Kind := all.find? (·.text == s)

end Kind

end Failure

/-- A failure in words. -/
structure Failure where
  kind : Failure.Kind
  message : String
  path : String := ""
  expected : String := ""
  actual : String := ""
  trial : Option Int := none
  /-- the position of the implicated argument, counted from 1 -/
  argument : Option Int := none
  invariant : String := ""
  function : String := ""
deriving DecidableEq, Repr, Inhabited

namespace Failure

/-- The kind and function of an error about a value that does not conform. -/
def rejection : Error → Kind × String
  | .result _ function .. => (.result, function)
  | .argument _ function .. => (.argument, function)
  | _ => (.argument, "")

/-- The failure that an error is. -/
def ofError (e : Error) (invariant : String) : Except Error Failure :=
  match e.mismatch?, e with
  | some m, e => do
    let path ← m.path.render
    let (kind, function) := rejection e
    pure { kind, message := e.text, path, expected := m.expected.render, actual := m.actual.brief,
           invariant, function }
  | none, .descriptor message => .ok { kind := .descriptor, message, invariant }
  | none, .unsupported message path => do
    pure { kind := .unsupported, message, path := ← path.render, invariant }
  | none, e => .ok { kind := .load, message := e.kind ++ ": " ++ e.text, invariant }

/-- Texts in parentheses. -/
def tupled (texts : List String) : String :=
  "(" ++ Descriptor.commaSeparated texts ++ ")"

/-- The failure that a counterexample is. -/
def ofCounterExample (c : CounterExample Error) (invariant : String) : Except Error Failure := do
  let told ← c.describe
  let failure : Failure :=
    { kind := .violation, invariant, trial := some c.trial,
      message := "falsified on trial " ++ toString c.trial ++ ": " ++ told }
  match c.cause.bind Error.mismatch?, c.argument with
  | some m, i =>
    pure { failure with
      path := ← m.path.render, expected := m.expected.render, actual := m.actual.brief,
      argument := i.map (· + 1), function := ((c.cause.map rejection).map (·.2)).getD "" }
  | none, some i =>
    match CounterExample.pick? c.descriptors i with
    | none => .error (.intrinsic .index)
    | some root =>
      let path ← c.path.render
      let leaf ← root.descriptorAt c.path
      let v ← c.implicated
      pure { failure with
        path, argument := some (i + 1), expected := leaf.render, actual := v.brief }
  | none, none =>
    pure { failure with
      expected := tupled (c.descriptors.map Descriptor.render),
      actual := tupled (c.values.map Value.brief) }

/-- The failure that a report tells, none if the invariant held. -/
def ofReport (r : Report) : Except Error (Option Failure) :=
  match r.status, r.counterexample, r.error with
  | .violated, some c, _ => (ofCounterExample c r.invariant).map some
  | .aborted, _, some e => (ofError e r.invariant).map some
  | _, _, _ => .ok none

end Failure

end Conformance
