/-!
# Conformance.CommandLine.Options

Arguments of a command: options with their values, and plain words.

1. A word is an option if it begins with a dash, unless it is a dash alone, a
   negative number, or holds a space and abbreviates no option.
2. A long option may be abbreviated as long as one option only begins that
   way; `--name=value` holds its value.  Short options without a value may be
   written together.
3. An option that takes a value takes the next word, which must be plain.
4. Everything behind `--` is plain.

The first thing wrong refuses the whole, except that an ambiguous
abbreviation counts before everything else; `help` is answered where it is
met.
-/

namespace Conformance.CommandLine

/-- A kind of option: its spellings, and whether it takes a value. -/
structure Switch where
  spellings : List String
  takesValue : Bool
deriving Repr, DecidableEq

/-- The option that asks for help. -/
def helpSwitch : Switch := ⟨["-h", "--help"], false⟩

/-- What an option's word holds besides its spelling. -/
inductive Suffix
  | none
  /-- text behind an equals sign -/
  | value (text : String)
  /-- text right behind a short option -/
  | attached (text : List Char)
deriving Repr, DecidableEq

/-- What a word is. -/
inductive Word
  | plain (text : String)
  | separator
  /-- an option as it is spelled, if it is known -/
  | option (known : Option Switch) (spelling : String) (suffix : Suffix)
deriving Repr, DecidableEq

/-! ## Classification -/

def isDigit (c : Char) : Bool := '0' ≤ c && c ≤ '9'

/-- A negative number: digits, perhaps with a point in front of the last of them. -/
def isNegativeNumber (cs : List Char) : Bool :=
  match cs with
  | '-' :: rest =>
    match rest.span isDigit with
    | (whole, []) => !whole.isEmpty
    | (_, '.' :: places) => !places.isEmpty && places.all isDigit
    | _ => false
  | _ => false

/-- Splits at the first equals sign. -/
def splitValue (s : String) : String × Suffix :=
  match s.toList.span (· != '=') with
  | (name, _ :: value) => (String.ofList name, .value (String.ofList value))
  | (name, []) => (String.ofList name, .none)

/-- The option spelled so. -/
def spelled? (options : List Switch) (s : String) : Option Switch :=
  options.find? (·.spellings.contains s)

/-- The options that a word may stand for, with what is written into it. -/
def abbreviated (options : List Switch) (s : String) : List Word :=
  let spellings := options.flatMap fun o => o.spellings.map fun n => (o, n)
  if s.startsWith "--" then
    let (name, suffix) := splitValue s
    (spellings.filter fun n => n.2.startsWith name).map fun n => .option (some n.1) n.2 suffix
  else
    let short := String.ofList (s.toList.take 2)
    spellings.filterMap fun n =>
      if n.2 = short then some (.option (some n.1) n.2 (.attached (s.toList.drop 2)))
      else if n.2.startsWith s then some (.option (some n.1) n.2 .none)
      else none

/-- What a word is, `none` if it abbreviates several options. -/
def classify (options : List Switch) (s : String) : Option Word :=
  if !s.startsWith "-" then some (.plain s)
  else
    match spelled? options s with
    | some o => some (.option (some o) s .none)
    | none =>
      if s = "-" then some (.plain s)
      else
        let (name, suffix) := splitValue s
        match spelled? options name with
        | some o => some (.option (some o) name suffix)
        | none =>
          match abbreviated options s with
          | [w] => some w
          | _ :: _ :: _ => none
          | [] =>
            if isNegativeNumber s.toList || s.toList.contains ' ' then some (.plain s)
            else some (.option none s .none)

/-- What each word is. -/
def classifyAll (options : List Switch) : List String → Option (List Word)
  | [] => some []
  | s :: ss =>
    if s = "--" then some (.separator :: ss.map .plain)
    else do
      let w ← classify options s
      let ws ← classifyAll options ss
      some (w :: ws)

/-! ## Options in place -/

/-- Whether the option that asks for help may have this behind it: further
short options, of which the first that is not `h` is left alone, unless it
begins with a dash or an `h` in front of it is given a value. -/
def isHelpTail : List Char → Bool
  | [] => true
  | '-' :: _ => false
  | 'h' :: '=' :: _ => false
  | 'h' :: rest => isHelpTail rest
  | _ :: _ => true

/-- Whether an option without a value stands as it should. -/
def Suffix.isFlag : Suffix → Bool
  | .none => true
  | .value _ => false
  | .attached text => isHelpTail text

/-- What comes of the words in front of the rest. -/
inductive Taken
  | help
  | refused
  /-- an option with its value -/
  | option (o : Switch) (value : String)
  /-- a word that is not used -/
  | extra
deriving Repr

/-- What comes of an option, and the words behind it. -/
def takeOption (known : Option Switch) (suffix : Suffix) (rest : List Word) :
    Taken × List Word :=
  match known with
  | none => (.extra, rest)
  | some o =>
    if o.takesValue then
      match suffix, rest with
      | .value v, rest => (.option o v, rest)
      | .attached v, rest => (.option o (String.ofList v), rest)
      | .none, .plain v :: rest => (.option o v, rest)
      | .none, rest => (.refused, rest)
    else if suffix.isFlag then (.help, rest)
    else (.refused, rest)

theorem length_takeOption_le (known : Option Switch) (suffix : Suffix) (rest : List Word) :
    (takeOption known suffix rest).2.length ≤ rest.length := by
  unfold takeOption
  split
  · simp
  · split
    · split <;> simp
    · split <;> simp

end Conformance.CommandLine
