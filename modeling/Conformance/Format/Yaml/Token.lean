/-!
# Conformance.Format.Yaml.Token

YAML text as tokens.  Block structure is made of tokens too: a deeper column
opens a collection, a shallower one closes it, and the token `key` is put in
front of what turns out to be a key when its colon is met.

1. A key written without a mark stands on one line and is at most 1024
   characters long.
2. Outside flow collections a key, an entry or a colon is only admitted where
   a line's first token may stand.
3. A plain scalar ends before `: `, ` #`, the end of its line if the next
   line is not indented deeper, and, inside flow collections, before `,`, `?`
   and brackets.
4. Quoted scalars fold line breaks into spaces; `\` escapes in double
   quotes, a doubled mark in single ones.

Anchors, aliases, tags, directives and block scalars are not part of the
configuration format.  A text that cannot be scanned further ends in `fault`.
-/

namespace Conformance.Yaml

/-- A token. -/
inductive Token
  | documentStart | documentEnd
  | sequenceStart | mappingStart | blockEnd
  | flowSequenceStart | flowSequenceEnd | flowMappingStart | flowMappingEnd
  | entry | flowEntry | key | value
  /-- a scalar; a plain one is read for what it stands for -/
  | scalar (text : String) (plain : Bool)
  | fault
deriving DecidableEq, Repr, Inhabited

/-! ## Characters -/

def isBreak (c : Char) : Bool :=
  c = '\n' || c = '\r' || c = '\x85' || c = '\u2028' || c = '\u2029'

/-- Whether a position ends a token: a blank, a break, or the end. -/
def endsToken : List Char → Bool
  | [] => true
  | c :: _ => c = ' ' || c = '\t' || isBreak c

/-- Whether a document is marked here: three times a mark and the end of a token. -/
def isMarked (mark : Char) : List Char → Bool
  | a :: b :: c :: rest => a = mark && b = mark && c = mark && endsToken rest
  | _ => false

def isDocumentMark (cs : List Char) : Bool := isMarked '-' cs || isMarked '.' cs

/-- A position in the text. -/
structure Cursor where
  rest : List Char
  index : Nat := 0
  line : Nat := 0
  column : Nat := 0
deriving Repr

namespace Cursor

/-- Behind the next `n` characters, none of which is a break. -/
def skip (n : Nat) (c : Cursor) : Cursor :=
  { c with rest := c.rest.drop n, index := c.index + n, column := c.column + n }

/-- Behind characters of a class without breaks, with these. -/
def takeWhile (p : Char → Bool) (c : Cursor) : List Char × Cursor :=
  let taken := c.rest.takeWhile p
  (taken, c.skip taken.length)

/-- Behind a line break, if there is one, with what it stands for. -/
def lineBreak? (c : Cursor) : Option (Char × Cursor) :=
  let after (n : Nat) (rest : List Char) : Cursor := ⟨rest, c.index + n, c.line + 1, 0⟩
  match c.rest with
  | '\r' :: '\n' :: rest => some ('\n', after 2 rest)
  | b :: rest =>
    if b = '\u2028' ∨ b = '\u2029' then some (b, after 1 rest)
    else if isBreak b then some ('\n', after 1 rest)
    else none
  | [] => none

end Cursor

/-- What line breaks inside a scalar stand for: the first is a space if no
other follows. -/
def folded (first : Char) (others : List Char) : List Char :=
  if first ≠ '\n' then first :: others else if others.isEmpty then [' '] else others

/-! ## Plain scalars -/

/-- Whether a plain scalar ends here. -/
def endsPlain (inFlow : Bool) : List Char → Bool
  | [] => true
  | c :: rest =>
    endsToken (c :: rest) ||
      (c = ':' && (endsToken rest || (inFlow && (rest.head?.any fun d => ",[]\x7b\x7d".contains d)))) ||
      (inFlow && ",?[]\x7b\x7d".contains c)

/-- The characters of a plain scalar up to a blank or its end. -/
def plainRun (inFlow : Bool) : List Char → List Char
  | [] => []
  | c :: rest => if endsPlain inFlow (c :: rest) then [] else c :: plainRun inFlow rest

/-- The breaks and blanks that begin lines inside a plain scalar, `none` if
they lead to a document mark. -/
def plainBreaks : (fuel : Nat) → Cursor → Option (List Char) × Cursor
  | 0, c => (some [], c)
  | fuel + 1, c =>
    match c.rest with
    | ' ' :: _ => plainBreaks fuel (c.skip 1)
    | _ =>
      match c.lineBreak? with
      | none => (some [], c)
      | some (b, c) =>
        if isDocumentMark c.rest then (none, c)
        else
          let (bs, c) := plainBreaks fuel c
          (bs.map (b :: ·), c)

/-- The space between two runs of a plain scalar, and whether it holds a
line break.  Nothing is between them if the scalar cannot go on. -/
def plainSpace (c : Cursor) : List Char × Bool × Cursor :=
  let (blanks, c) := c.takeWhile (· = ' ')
  match c.lineBreak? with
  | none => (blanks, false, c)
  | some (b, c) =>
    if isDocumentMark c.rest then ([], true, c)
    else
      match plainBreaks (c.rest.length + 1) c with
      | (some bs, c) => (folded b bs, true, c)
      | (none, c) => ([], true, c)

/-- A plain scalar from its first run on: its text, whether it has gone over
a line break, and the position behind it. -/
def plainScalar (inFlow : Bool) (indent : Int) :
    (fuel : Nat) → Cursor → List Char × Bool × Cursor
  | 0, c => ([], false, c)
  | fuel + 1, c =>
    let run := if c.rest.head? = some '#' then [] else plainRun inFlow c.rest
    if run.isEmpty then ([], false, c)
    else
      let (space, broken, c) := plainSpace (c.skip run.length)
      if space.isEmpty || c.rest.head? = some '#' || (!inFlow && c.column < indent) then
        (run, broken, c)
      else
        let (more, brokenLater, c) := plainScalar inFlow indent fuel c
        if more.isEmpty then (run, broken, c)
        else (run ++ space ++ more, brokenLater, c)

/-! ## Quoted scalars -/

/-- What a single escape in double quotes stands for. -/
def escape? : Char → Option Char
  | '0' => some '\x00'
  | 'a' => some '\x07'
  | 'b' => some '\x08'
  | 't' | '\t' => some '\t'
  | 'n' => some '\n'
  | 'v' => some '\x0b'
  | 'f' => some '\x0c'
  | 'r' => some '\r'
  | 'e' => some '\x1b'
  | ' ' => some ' '
  | '"' => some '"'
  | '\\' => some '\\'
  | '/' => some '/'
  | 'N' => some '\x85'
  | '_' => some '\xa0'
  | 'L' => some '\u2028'
  | 'P' => some '\u2029'
  | _ => none

/-- How many digits follow an escape by code point. -/
def escapeWidth? : Char → Option Nat
  | 'x' => some 2
  | 'u' => some 4
  | 'U' => some 8
  | _ => none

/-- The value of a hexadecimal digit. -/
def hexDigit? (c : Char) : Option Nat :=
  if '0' ≤ c ∧ c ≤ '9' then some (c.toNat - 0x30)
  else if 'a' ≤ c ∧ c ≤ 'f' then some (c.toNat - 0x57)
  else if 'A' ≤ c ∧ c ≤ 'F' then some (c.toNat - 0x37)
  else none

/-- The number that so many hexadecimal digits write. -/
def hexNumber? (width : Nat) (cs : List Char) : Option Nat :=
  let ds := cs.take width
  if ds.length < width then none
  else ds.foldlM (fun n c => (hexDigit? c).map (16 * n + ·)) 0

/-- The breaks that begin the lines of a quoted scalar after its first,
`none` if a document mark stands there. -/
def quotedBreaks? : (fuel : Nat) → Cursor → Option (List Char × Cursor)
  | 0, _ => none
  | fuel + 1, c =>
    if isDocumentMark c.rest then none
    else
      let c := (c.takeWhile fun d => d = ' ' || d = '\t').2
      match c.lineBreak? with
      | none => some ([], c)
      | some (b, c) => (quotedBreaks? fuel c).map fun r => (b :: r.1, r.2)

/-- The rest of a quoted scalar. -/
def quotedScalar? (double : Bool) : (fuel : Nat) → Cursor → Option (List Char × Cursor)
  | 0, _ => none
  | fuel + 1, c =>
    let go (front : List Char) (c : Cursor) :=
      (quotedScalar? double fuel c).map fun r => (front ++ r.1, r.2)
    match c.rest with
    | [] => none
    | d :: rest =>
      if d = ' ' ∨ d = '\t' ∨ isBreak d then
        let (blanks, c) := c.takeWhile fun d => d = ' ' || d = '\t'
        match c.lineBreak? with
        | none => if c.rest.isEmpty then none else go blanks c
        | some (b, c) =>
          match quotedBreaks? (c.rest.length + 1) c with
          | some (bs, c) => go (folded b bs) c
          | none => none
      else if double then
        if d = '"' then some ([], c.skip 1)
        else if d = '\\' then
          match rest with
          | [] => none
          | e :: digits =>
            match escape? e, escapeWidth? e with
            | some x, _ => go [x] (c.skip 2)
            | none, some width =>
              match hexNumber? width digits with
              | some n => if n.isValidChar then go [Char.ofNat n] (c.skip (2 + width)) else none
              | none => none
            | none, none =>
              match (c.skip 1).lineBreak? with
              | some (_, c) =>
                match quotedBreaks? (c.rest.length + 1) c with
                | some (bs, c) => go bs c
                | none => none
              | none => none
        else go [d] (c.skip 1)
      else if d = '\x27' then
        if rest.head? = some '\x27' then go [d] (c.skip 2) else some ([], c.skip 1)
      else go [d] (c.skip 1)

/-! ## Scanning -/

/-- A token that becomes a key if a colon follows. -/
structure PossibleKey where
  /-- how many tokens come before it -/
  number : Nat
  /-- whether nothing but a key can stand there -/
  required : Bool
  index : Nat
  line : Nat
  column : Nat
deriving Repr

/-- A scan under way. -/
structure Scan where
  cursor : Cursor
  tokens : List Token := []
  /-- the column of the innermost block collection -/
  indent : Int := -1
  /-- the columns of those around it -/
  indents : List Int := []
  /-- how deep flow collections are nested -/
  flow : Nat := 0
  keyAllowed : Bool := true
  /-- at most one possible key for each depth of flow collections -/
  keys : List (Nat × PossibleKey) := []
  finished : Bool := false

namespace Scan

def emit (t : Token) (s : Scan) : Scan := { s with tokens := s.tokens ++ [t] }

/-- Puts a token in front of the one of that number. -/
def emitAt (n : Nat) (t : Token) (s : Scan) : Scan :=
  { s with tokens := s.tokens.take n ++ t :: s.tokens.drop n }

def inFlow (s : Scan) : Bool := 0 < s.flow

/-- Behind the next `n` characters. -/
def skip (n : Nat) (s : Scan) : Scan := { s with cursor := s.cursor.skip n }

/-- Forgets possible keys that are too far back.  One that is required there
is a fault. -/
def dropStaleKeys (s : Scan) : Option Scan :=
  let isStale (k : Nat × PossibleKey) : Bool :=
    k.2.line != s.cursor.line || k.2.index + 1024 < s.cursor.index
  if s.keys.any fun k => isStale k && k.2.required then none
  else some { s with keys := s.keys.filter fun k => !isStale k }

/-- Forgets the possible key at this depth.  One that is required is a fault. -/
def dropKey (s : Scan) : Option Scan :=
  match s.keys.lookup s.flow with
  | some k =>
    if k.required then none
    else some { s with keys := s.keys.filter fun k => k.1 != s.flow }
  | none => some s

/-- Notes that the next token may be a key. -/
def noteKey (s : Scan) : Option Scan :=
  if s.keyAllowed then do
    let t ← s.dropKey
    let key : PossibleKey :=
      ⟨s.tokens.length, !s.inFlow && s.indent == s.cursor.column, s.cursor.index, s.cursor.line,
        s.cursor.column⟩
    some { t with keys := (s.flow, key) :: t.keys }
  else some s

/-- Closes the block collections that stand further right. -/
def closeTo (column : Int) : (indents : List Int) → Scan → Scan
  | [], s => s
  | i :: indents, s =>
    if column < s.indent then closeTo column indents { s.emit .blockEnd with indent := i, indents }
    else s

/-- Closes the block collections that stand further right, outside flow collections. -/
def unwind (column : Int) (s : Scan) : Scan :=
  if s.inFlow then s else closeTo column s.indents s

/-- Whether a column is deeper than the innermost collection. -/
def isDeeper (column : Nat) (s : Scan) : Bool := s.indent < column

/-- Opens a block collection at a column. -/
def openAt (column : Nat) (s : Scan) : Scan :=
  { s with indent := column, indents := s.indent :: s.indents }

/-- Skips blanks, comments and line breaks. -/
def skipBlank : (fuel : Nat) → Scan → Scan
  | 0, s => s
  | fuel + 1, s =>
    let c := (s.cursor.takeWhile (· = ' ')).2
    let c := if c.rest.head? = some '#' then (c.takeWhile fun d => !isBreak d).2 else c
    match c.lineBreak? with
    | none => { s with cursor := c }
    | some (_, c) =>
      skipBlank fuel { s with cursor := c, keyAllowed := s.keyAllowed || !s.inFlow }

/-- The end of the text. -/
def finish (s : Scan) : Option Scan := do
  let s ← (s.unwind (-1)).dropKey
  some { s with finished := true }

/-- A document mark. -/
def documentMark (t : Token) (s : Scan) : Option Scan := do
  let s ← (s.unwind (-1)).dropKey
  some ({ s with keyAllowed := false }.skip 3 |>.emit t)

/-- The start of a flow collection. -/
def openFlow (t : Token) (s : Scan) : Option Scan := do
  let s ← s.noteKey
  some ({ s with flow := s.flow + 1, keyAllowed := true }.skip 1 |>.emit t)

/-- The end of a flow collection. -/
def closeFlow (t : Token) (s : Scan) : Option Scan := do
  let s ← s.dropKey
  some ({ s with flow := s.flow - 1, keyAllowed := false }.skip 1 |>.emit t)

/-- A comma between the items of a flow collection. -/
def flowEntry (s : Scan) : Option Scan := do
  let s ← { s with keyAllowed := true }.dropKey
  some (s.skip 1 |>.emit .flowEntry)

/-- Opens a block collection here if the column is deeper. -/
def openHere (t : Token) (s : Scan) : Option Scan :=
  if s.inFlow then some s
  else if !s.keyAllowed then none
  else if s.isDeeper s.cursor.column then some ((s.openAt s.cursor.column).emit t)
  else some s

/-- The dash of a block sequence. -/
def blockEntry (s : Scan) : Option Scan := do
  let s ← s.openHere .sequenceStart
  let s ← { s with keyAllowed := true }.dropKey
  some (s.skip 1 |>.emit .entry)

/-- The mark of a key. -/
def markedKey (s : Scan) : Option Scan := do
  let s ← s.openHere .mappingStart
  let s ← { s with keyAllowed := !s.inFlow }.dropKey
  some (s.skip 1 |>.emit .key)

/-- The colon in front of a value. -/
def valueMark (s : Scan) : Option Scan := do
  match s.keys.lookup s.flow with
  | some k =>
    let s := { s with keys := s.keys.filter fun k => k.1 != s.flow, keyAllowed := false }
    let s := s.emitAt k.number .key
    let s := if !s.inFlow && s.isDeeper k.column
      then (s.openAt k.column).emitAt k.number .mappingStart else s
    some (s.skip 1 |>.emit .value)
  | none =>
    let s ← s.openHere .mappingStart
    let s ← { s with keyAllowed := !s.inFlow }.dropKey
    some (s.skip 1 |>.emit .value)

/-- A quoted scalar. -/
def quoted (double : Bool) (s : Scan) : Option Scan := do
  let s ← s.noteKey
  let (text, c) ← quotedScalar? double (s.cursor.rest.length + 1) (s.cursor.skip 1)
  some ({ s with cursor := c, keyAllowed := false }.emit (.scalar (String.ofList text) false))

/-- A plain scalar. -/
def plain (s : Scan) : Option Scan := do
  let s ← s.noteKey
  let (text, broken, c) :=
    plainScalar s.inFlow (s.indent + 1) (s.cursor.rest.length + 1) s.cursor
  some ({ s with cursor := c, keyAllowed := broken }.emit (.scalar (String.ofList text) true))

/-- Whether a plain scalar can start here. -/
def startsPlain (s : Scan) : Bool :=
  match s.cursor.rest with
  | [] => false
  | c :: rest =>
    !(endsToken [c] || "-?:,[]\x7b\x7d#&*!|>\x27\"%@\x60".contains c) ||
      (!endsToken rest && (c = '-' || (!s.inFlow && (c = '?' || c = ':'))))

/-- The token that starts here. -/
def token (s : Scan) : Option Scan :=
  let rest := s.cursor.rest
  if rest.isEmpty then s.finish
  else if s.cursor.column = 0 && isMarked '-' rest then s.documentMark .documentStart
  else if s.cursor.column = 0 && isMarked '.' rest then s.documentMark .documentEnd
  else
    let standsAlone := endsToken (rest.drop 1)
    match rest.head? with
    | some '[' => s.openFlow .flowSequenceStart
    | some '\x7b' => s.openFlow .flowMappingStart
    | some ']' => s.closeFlow .flowSequenceEnd
    | some '\x7d' => s.closeFlow .flowMappingEnd
    | some ',' => s.flowEntry
    | some '\x27' => s.quoted false
    | some '"' => s.quoted true
    | c =>
      if c = some '-' ∧ standsAlone then s.blockEntry
      else if c = some '?' ∧ (s.inFlow ∨ standsAlone) then s.markedKey
      else if c = some ':' ∧ (s.inFlow ∨ standsAlone) then s.valueMark
      else if s.startsPlain then s.plain
      else none

/-- Scans on to the next token. -/
def next (s : Scan) : Option Scan := do
  let s ← (s.skipBlank (s.cursor.rest.length + 1)).dropStaleKeys
  (s.unwind s.cursor.column).token

/-- The tokens up to the end or to a fault. -/
def run : (fuel : Nat) → Scan → List Token
  | 0, s => s.tokens ++ [.fault]
  | fuel + 1, s =>
    if s.finished then s.tokens
    else
      match s.next with
      | some s => run fuel s
      | none => s.tokens ++ [.fault]

end Scan

/-- The tokens of a text. -/
def Token.scan (text : String) : List Token :=
  let cs := text.toList
  let cs := if cs.head? = some '\uFEFF' then cs.drop 1 else cs
  Scan.run (cs.length + 2) ⟨⟨cs, 0, 0, 0⟩, [], -1, [], 0, true, [], false⟩

end Conformance.Yaml
