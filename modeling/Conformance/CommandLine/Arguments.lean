import Conformance.CommandLine.Options
import Conformance.Number.Reading

/-!
# Conformance.CommandLine.Arguments

What the command line asks for.  There is one command, `check`, with a target
and options; of an option that is repeated the last counts.  Anything that is
missing, left over or not understood refuses the command line as a whole.
-/

namespace Conformance.CommandLine

/-- What `check` is asked to do. -/
structure Arguments where
  target : String
  trials : Option Int := none
  seed : Option Int := none
  config : Option String := none
  logLevel : Option String := none
  logFormat : Option String := none
deriving Repr, DecidableEq

/-- What a command line comes to. -/
inductive Reading
  | help
  | refused
  | arguments (a : Arguments)
deriving Repr, DecidableEq

/-- The options of `check`. -/
inductive CheckSwitch
  | trials | seed | config | logLevel | logFormat
deriving DecidableEq, Repr

namespace CheckSwitch

def spelling : CheckSwitch → String
  | trials => "--trials"
  | seed => "--seed"
  | config => "--config"
  | logLevel => "--log-level"
  | logFormat => "--log-format"

def all : List CheckSwitch := [trials, seed, config, logLevel, logFormat]

def switch (c : CheckSwitch) : Switch := ⟨[c.spelling], true⟩

/-- The formats of logs. -/
def formats : List String := ["console", "json"]

/-- Sets an option from its text. -/
def set (c : CheckSwitch) (text : String) (a : Arguments) : Option Arguments :=
  match c with
  | trials => (Number.integer? text).map fun n => { a with trials := some n }
  | seed => (Number.integer? text).map fun n => { a with seed := some n }
  | config => some { a with config := some text }
  | logLevel => some { a with logLevel := some text }
  | logFormat => if formats.contains text then some { a with logFormat := some text } else none

end CheckSwitch

/-- The options of `check`. -/
def checkSwitches : List Switch := helpSwitch :: CheckSwitch.all.map CheckSwitch.switch

/-- Reads the words of `check`.  `target` is the target once it has been met,
and `extra` says that a word was left over. -/
def readCheck (a : Arguments) (target : Option String) (extra : Bool) : List Word → Reading
  | [] =>
    match target with
    | some target => if extra then .refused else .arguments { a with target }
    | none => .refused
  | .plain s :: rest =>
    match target, rest with
    | none, .separator :: rest => readCheck a (some s) extra rest
    | none, rest => readCheck a (some s) extra rest
    | some _, rest => readCheck a target true rest
  | .separator :: rest =>
    match target, rest with
    | none, .plain s :: rest => readCheck a (some s) extra rest
    | _, rest => readCheck a target true rest
  | .option known _ suffix :: rest =>
    have := length_takeOption_le known suffix rest
    match takeOption known suffix rest, this with
    | (.help, _), _ => .help
    | (.refused, _), _ => .refused
    | (.extra, rest), _ => readCheck a target true rest
    | (.option o value, rest), _ =>
      match CheckSwitch.all.find? fun c => c.switch == o with
      | none => .refused
      | some c =>
        match c.set value a with
        | none => .refused
        | some a => readCheck a target extra rest
termination_by words => words.length
decreasing_by all_goals simp_all; try omega

/-- The name of the command. -/
def command : String := "check"

/-- Reads words up to the command and what follows it. -/
def readCommand (extra : Bool) : List Word → List String → Reading
  | .plain s :: _, _ :: rest =>
    if s = command then
      match classifyAll checkSwitches rest with
      | none => .refused
      | some words =>
        match readCheck ⟨"", none, none, none, none, none⟩ none false words with
        | .arguments a => if extra then .refused else .arguments a
        | r => r
    else .refused
  | .option known _ suffix :: words, _ :: rest =>
    match takeOption known suffix words with
    | (.help, _) => .help
    | (.extra, _) => readCommand true words rest
    | _ => .refused
  | _, _ => .refused

/-- Reads a command line. -/
def read (argv : List String) : Reading :=
  match classifyAll [helpSwitch] argv with
  | none => .refused
  | some words => readCommand false words argv

end Conformance.CommandLine
