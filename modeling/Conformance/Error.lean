import Conformance.Mismatch

/-!
# Conformance.Error

What goes wrong, by cause.

* `descriptor` — a descriptor was built from malformed arguments.
* `unsupported` — a sample was asked for where a function stands.
* `validation` — a value does not conform.
* `argument`, `result` — a checked function met a value that does not
  conform on its way in or out.
* `violation` — an invariant was falsified.
* `foreign` — raised by declared code, under a kind of its own.
* `intrinsic` — an operation that has no answer, such as an index out of
  range; it carries no text.
* `settings` — a configuration that is not accepted, field by field.

`Error.text` is the wording.
-/

namespace Conformance

/-- A step from a value to a part of it. -/
inductive Step
  /-- the value under a key or at an index -/
  | key (k : Value)
  /-- the value inside a `just` -/
  | inner
deriving Repr, Inhabited

/-- Where an object comes from, which decides whether two equal values are
one object. -/
inductive Origin
  /-- the argument of that position of the call under way, or a part of it -/
  | argument (position : Nat) (steps : List Step)
  /-- written out in the declarations -/
  | given
  /-- made by an operation -/
  | made
deriving Repr, Inhabited

/-- A sampled tuple that falsifies an invariant.  `argument` and `path` name
the implicated part where it is known. -/
structure CounterExample (ε : Type) where
  values : List Value
  descriptors : List Descriptor
  trial : Int
  trialSeed : Int
  argument : Option Int := none
  path : Path := []
  cause : Option ε := none
deriving Repr, Inhabited

/-- Operations that have no answer. -/
inductive Intrinsic
  | type | value | index | key | member | zeroDivision | overflow | recursion | unicode
  | settings | scanner | grammar | composer | constructor
deriving DecidableEq, Repr, Inhabited

namespace Intrinsic

/-- The kind under which it is reported. -/
def kind : Intrinsic → String
  | type => "TypeError"
  | value => "ValueError"
  | index => "IndexError"
  | key => "KeyError"
  | member => "AttributeError"
  | zeroDivision => "ZeroDivisionError"
  | overflow => "OverflowError"
  | recursion => "RecursionError"
  | unicode => "UnicodeDecodeError"
  | settings => "SettingsError"
  | scanner => "ScannerError"
  | grammar => "ParserError"
  | composer => "ComposerError"
  | constructor => "ConstructorError"

end Intrinsic

/-- One field of a configuration that is not accepted. -/
structure SettingFault where
  location : List Value
  rule : String
  text : Option String := none
deriving Repr, Inhabited

/-- An error. -/
inductive Error
  | conformance (message : String)
  | descriptor (message : String)
  | unsupported (message : String) (path : Path)
  | validation (mismatch : Mismatch) (message : String)
  | argument (mismatch : Mismatch) (function : String) (argument : Value) (origin : Origin)
  | result (mismatch : Mismatch) (function : String) (argument result : Value)
  | violation (counterexample : CounterExample Error) (invariant : String) (message : String)
  | foreign (kind : String) (message : Option String)
  | intrinsic (cause : Intrinsic)
  | settings (faults : List SettingFault)
deriving Repr, Inhabited

namespace Error

/-- The kind under which an error is reported. -/
def kind : Error → String
  | conformance _ => "ConformanceError"
  | descriptor _ => "DescriptorError"
  | unsupported .. => "UnsupportedGenerationError"
  | validation .. => "ValidationError"
  | argument .. => "ArgumentTypeError"
  | result .. => "ReturnTypeError"
  | violation .. => "InvariantViolation"
  | foreign kind _ => kind
  | intrinsic cause => cause.kind
  | settings _ => "ConfigError"

/-- The wording.  The text of a failed look-up is its message in quotation marks. -/
def text : Error → String
  | conformance message | descriptor message | unsupported message _ | validation _ message
  | violation _ _ message => message
  | argument m function _ _ => "argument to " ++ function ++ "() rejected: " ++ m.describe
  | result m function x _ =>
    "result of " ++ function ++ "(" ++ x.written ++ ") rejected: " ++ m.describe
  | foreign kind message =>
    match message with
    | none => ""
    | some m => if kind = "KeyError" then Text.quoted m else m
  | intrinsic _ | settings _ => ""

/-- The mismatch behind an error, if a value did not conform. -/
def mismatch? : Error → Option Mismatch
  | validation m _ | argument m .. | result m .. => some m
  | _ => none

/-- Whether the error is one of this library's own. -/
def isConformance : Error → Bool
  | foreign .. | intrinsic _ | settings _ => false
  | _ => true

/-- The kinds that end a run instead of counting as a failure of what was run. -/
def leavingKinds : List String := ["KeyboardInterrupt", "SystemExit", "GeneratorExit"]

/-- Whether the error counts as a failure of what was run. -/
def isOrdinary : Error → Bool
  | foreign kind _ => !leavingKinds.contains kind
  | _ => true

/-- A failed look-up. -/
def lookup (message : String) : Error := foreign "KeyError" (some message)

end Error

/-- A report of a text that a path does not have is an operation without an answer. -/
def Path.render (path : Path) : Except Error String :=
  match path.render? with
  | some s => .ok s
  | none => .error (.intrinsic .type)

/-- A path of names and integers has a text to report. -/
theorem Path.exists_render {path : Path} (h : path.all Segment.isNameOrInteger) :
    ∃ text, path.render = .ok text := by
  obtain ⟨text, htext⟩ := Option.isSome_iff_exists.mp (Path.render?_isSome h)
  exact ⟨text, by rw [Path.render, htext]⟩

namespace CounterExample

/-- The item at an index, counted from the back if it is negative. -/
def pick? {α : Type} (items : List α) (i : Int) : Option α :=
  let i := if i < 0 then i + items.length else i
  if 0 ≤ i then items[i.toNat]? else none

/-- The implicated value; `missing` if no position is implicated. -/
def implicated {ε : Type} (c : CounterExample ε) : Except Error Value :=
  match c.argument with
  | none => .ok .missing
  | some i =>
    match pick? c.values i with
    | some v => .ok (v.follow c.path)
    | none => .error (.intrinsic .index)

/-- The implicated position in words, empty if there is none. -/
def location {ε : Type} (c : CounterExample ε) : Except Error String :=
  match c.argument with
  | none => .ok ""
  | some i =>
    let argument := "argument " ++ toString (i + 1)
    if c.path.isEmpty then .ok argument
    else c.path.render.map fun path => "field `" ++ path ++ "` of " ++ argument

/-- The values, the implicated position, and the error that was raised. -/
def describe (c : CounterExample Error) : Except Error String := do
  let values := "(" ++ ", ".intercalate (c.values.map Value.brief) ++ ")"
  let place ← c.location
  let implicating ←
    if place.isEmpty then pure ""
    else do
      let v ← c.implicated
      pure (", implicating " ++ place ++ " = " ++ v.brief)
  let raised := match c.cause with
    | none => ""
    | some e => ", raised " ++ e.kind ++ ": " ++ e.text
  pure (values ++ implicating ++ raised)

end CounterExample

namespace Error

/-- The error of a falsified invariant. -/
def ofCounterExample (c : CounterExample Error) (invariant : String) : Except Error Error := do
  let label := if invariant.isEmpty then "invariant" else "invariant " ++ Text.quoted invariant
  let told ← c.describe
  pure (.violation c invariant (label ++ " falsified on trial " ++ toString c.trial ++ ": " ++ told))

end Error

/-- Tells one raised error from another: the session that raised it, and how
many it had raised before. -/
structure Ticket where
  session : Nat
  serial : Nat
deriving DecidableEq, Repr, Inhabited

/-- How a computation ends without a result: an error was raised, or its
draws did not come to an end. -/
inductive Fault
  | raised (error : Error) (ticket : Option Ticket)
  | unfinished
deriving Repr, Inhabited

/-- An error raised for the first time. -/
abbrev Fault.of (e : Error) : Fault := .raised e none

/-- Whether the fault counts as a failure of what was run. -/
def Fault.isOrdinary : Fault → Bool
  | raised e _ => e.isOrdinary
  | unfinished => false

end Conformance
