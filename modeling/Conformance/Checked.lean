import Conformance.Run
import Conformance.Traced
import Conformance.Validate

/-!
# Conformance.Checked

Functions that are checked against a signature.  A call

1. validates the argument against the input; if it does not conform, the
   function is not called and the call fails with `Error.argument`;
2. calls the function once; its faults pass through unchanged;
3. validates the result against the output; if it does not conform, it is
   discarded and the call fails with `Error.result`;
4. returns the result as it is.

A rejection is logged where it is made.
-/

namespace Conformance

/-- The type of a function of one argument. -/
structure Signature where
  name : Option String
  input : Descriptor
  output : Descriptor
deriving Repr, Inhabited

namespace Signature

def toDescriptor (s : Signature) : Descriptor := .fn s.name s.input s.output

def render (s : Signature) : String := s.toDescriptor.render

/-- Logs a rejection. -/
def logRejection (event function : String) (m : Mismatch) : Run Unit :=
  Run.log .debug event
    [("system", .str "conformos.engine.checked"), ("function", .str function),
      ("path", .str m.location), ("expected", .str m.expected.render)]

/-- A call of `f`, known as `function`, under a signature. -/
def guard (s : Signature) (function : String) (f : Traced → Run Traced) (x : Traced) :
    Run Traced :=
  match s.input.validate x.value with
  | some m => do
    logRejection "argument_rejected" function m
    Run.raise (.argument m function x.value x.origin)
  | none => do
    let r ← f x
    match s.output.validate r.value with
    | some m => do
      logRejection "result_rejected" function m
      Run.raise (.result m function x.value r.value)
    | none => pure r

/-- The checked form of a function is refused for anything but a function
type and something that can be called. -/
def ofValues (signature implementation : Value) : Except Error (Signature × Callable) :=
  match signature with
  | .descriptor (.fn name input output) =>
    match implementation with
    | .function f => .ok (⟨name, input, output⟩, f)
    | v => .error (.descriptor ("implementation must be callable, got " ++ v.written))
  | v => .error (.descriptor ("a checked function needs an Fn descriptor, got " ++ v.written))

/-- How a checked function is shown. -/
def written (s : Signature) (f : Callable) : String :=
  "<checked " ++ f.label ++ ": " ++ s.render ++ ">"

end Signature

end Conformance
