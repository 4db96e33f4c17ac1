import Conformance.Expr

/-!
# Conformance.Library

The functions that declarations define and what calling them does.  A
defined function is known by its handle, its position in the library; names
lead to values, and a later name hides an earlier one.

Calls nest to a bounded depth, beyond which a call fails.
-/

namespace Conformance

/-- What a defined function does. -/
inductive Definition
  /-- evaluates a body; its calls are counted under a name -/
  | body (countedAs : String) (doc : Option String) (body : Expr)
  /-- calls another function under a signature -/
  | guarded (signature : Signature) (implementation : Callable)
  /-- runs code of the program that these declarations are part of -/
  | host (run : List Traced → Run Traced)
deriving Inhabited

/-- Defined functions and named values. -/
structure Library where
  definitions : Array Definition := #[]
  names : List (String × Value) := []
deriving Inhabited

namespace Library

/-- How deep calls may nest. -/
def callDepth : Nat := 1000

/-- Names a value. -/
def bind (lib : Library) (name : String) (v : Value) : Library :=
  { lib with names := (name, v) :: lib.names }

/-- Defines a function with a body.  One with a name is shown by its
qualified name, one without by a text of its own. -/
def define (lib : Library) (name qualifiedName doc : Option String) (text countedAs : String)
    (body : Expr) : Library × Callable :=
  ({ lib with definitions := lib.definitions.push (.body countedAs doc body) },
    .defined lib.definitions.size name qualifiedName text)

/-- Wraps a function into a checked one, which takes over its names. -/
def wrap (lib : Library) (s : Signature) (f : Callable) : Library × Callable :=
  ({ lib with definitions := lib.definitions.push (.guarded s f) },
    .defined lib.definitions.size f.name f.qualifiedName (s.written f))

/-- Wraps what a value is, if it is a function and the other a function type. -/
def wrapValues (lib : Library) (signature implementation : Value) :
    Except Error (Library × Callable) :=
  (Signature.ofValues signature implementation).map fun sf => lib.wrap sf.1 sf.2

def definition? (lib : Library) : Callable → Option Definition
  | .builtin _ => none
  | .defined handle .. => lib.definitions[handle]?

/-- Calls a function.  `depth` bounds how deep calls nest. -/
def applyWithin (lib : Library) : (depth : Nat) → Callable → List Traced → Run Traced
  | 0, _, _ => Run.raise (.intrinsic .recursion)
  | depth + 1, f, args =>
    match f, lib.definition? f with
    | .builtin g, _ => Run.ofExcept (g.apply args)
    | _, some (.body countedAs _ body) => do
      Run.called countedAs
      body.eval (fun name x =>
        match lib.names.lookup name with
        | some (.function g) => applyWithin lib depth g [x]
        | some _ => Run.raise (.intrinsic .type)
        | none => Run.raise (.intrinsic .key)) args
    | _, some (.guarded s g) =>
      match args with
      | [x] => s.guard g.label (fun x => applyWithin lib depth g [x]) x
      | _ => Run.raise (.intrinsic .type)
    | _, some (.host run) => run args
    | _, none => Run.raise (.intrinsic .type)

/-- Calls a function. -/
def apply (lib : Library) (f : Callable) (args : List Traced) : Run Traced :=
  lib.applyWithin callDepth f args

/-- Calls a function of a name. -/
def call (lib : Library) (name : String) (arg : Traced) : Run Traced :=
  match lib.names.lookup name with
  | some (.function f) => lib.apply f [arg]
  | some _ => Run.raise (.intrinsic .type)
  | none => Run.raise (.intrinsic .key)

/-- What documentation a function has. -/
def doc? (lib : Library) (f : Callable) : Option String :=
  match lib.definition? f with
  | some (.body _ doc _) => doc
  | _ => none

end Library

end Conformance
