import Conformance.Error
import Conformance.Format.Yaml.Scalar
import Conformance.Format.Yaml.Token

/-!
# Conformance.Format.Yaml.Node

Documents as trees, and the values they stand for.

* `ofTokens?` reads the one document of a text.  Where nothing stands, the
  node is the empty scalar.
* `value` makes lists of sequences and mappings of mappings, in which a later
  entry replaces an earlier one under its key; a list or a mapping cannot be
  a key.
-/

namespace Conformance.Yaml

/-- A node of a document. -/
inductive Node
  | scalar (text : String) (plain : Bool)
  | sequence (items : List Node)
  | mapping (entries : List (Node × Node))
deriving Repr, Inhabited

namespace Node

/-- What stands where nothing is written. -/
def empty : Node := scalar "" true

/-! ## Reading tokens -/

/-- What is wrong with tokens in that order. -/
def unexpected {α : Type} (tokens : List Token) : Except Intrinsic α :=
  match tokens with
  | .fault :: _ => .error .scanner
  | _ => .error .grammar

/-- Whether one of some tokens comes next, or the end. -/
def comes (next : List Token) (tokens : List Token) : Bool :=
  match tokens.head? with
  | none => true
  | some t => next.contains t

mutual
/-- A node.  Only in block context does it open a block collection. -/
def ofFront (block : Bool) : (fuel : Nat) → List Token → Except Intrinsic (Node × List Token)
  | 0, tokens => unexpected tokens
  | fuel + 1, tokens =>
    match tokens with
    | .scalar text plain :: rest => .ok (scalar text plain, rest)
    | .flowSequenceStart :: rest =>
      (flowItems true fuel rest).map fun r => (sequence r.1, r.2)
    | .flowMappingStart :: rest =>
      (flowEntries true fuel rest).map fun r => (mapping r.1, r.2)
    | .sequenceStart :: rest =>
      if block then (blockItems fuel rest).map fun r => (sequence r.1, r.2)
      else unexpected tokens
    | .mappingStart :: rest =>
      if block then (blockEntries fuel rest).map fun r => (mapping r.1, r.2)
      else unexpected tokens
    | tokens => unexpected tokens
/-- A node of a block mapping, which may be a sequence at the mapping's own column. -/
def ofFrontOrSequence : (fuel : Nat) → List Token → Except Intrinsic (Node × List Token)
  | 0, tokens => unexpected tokens
  | fuel + 1, tokens =>
    match tokens with
    | .entry :: _ => (levelItems fuel tokens).map fun r => (sequence r.1, r.2)
    | tokens => ofFront true fuel tokens
/-- The items of a block sequence. -/
def blockItems : (fuel : Nat) → List Token → Except Intrinsic (List Node × List Token)
  | 0, tokens => unexpected tokens
  | fuel + 1, tokens =>
    match tokens with
    | .blockEnd :: rest => .ok ([], rest)
    | .entry :: rest => do
      let (item, rest) ←
        if comes [.entry, .blockEnd] rest then .ok (empty, rest) else ofFront true fuel rest
      let (items, rest) ← blockItems fuel rest
      .ok (item :: items, rest)
    | tokens => unexpected tokens
/-- The items of a sequence at the column of the mapping around it. -/
def levelItems : (fuel : Nat) → List Token → Except Intrinsic (List Node × List Token)
  | 0, tokens => unexpected tokens
  | fuel + 1, tokens =>
    match tokens with
    | .entry :: rest => do
      let (item, rest) ←
        if comes [.entry, .key, .value, .blockEnd] rest then .ok (empty, rest)
        else ofFront true fuel rest
      let (items, rest) ← levelItems fuel rest
      .ok (item :: items, rest)
    | tokens => .ok ([], tokens)
/-- The entries of a block mapping. -/
def blockEntries : (fuel : Nat) → List Token → Except Intrinsic (List (Node × Node) × List Token)
  | 0, tokens => unexpected tokens
  | fuel + 1, tokens =>
    match tokens with
    | .blockEnd :: rest => .ok ([], rest)
    | .key :: rest => do
      let (key, rest) ←
        if comes [.key, .value, .blockEnd] rest then .ok (empty, rest)
        else ofFrontOrSequence fuel rest
      let (value, rest) ← blockValue fuel rest
      let (entries, rest) ← blockEntries fuel rest
      .ok ((key, value) :: entries, rest)
    | .value :: _ => do
      let (value, rest) ← blockValue fuel tokens
      let (entries, rest) ← blockEntries fuel rest
      .ok ((empty, value) :: entries, rest)
    | tokens => unexpected tokens
/-- The value of a block entry. -/
def blockValue : (fuel : Nat) → List Token → Except Intrinsic (Node × List Token)
  | 0, tokens => unexpected tokens
  | fuel + 1, tokens =>
    match tokens with
    | .value :: rest =>
      if comes [.key, .value, .blockEnd] rest then .ok (empty, rest)
      else ofFrontOrSequence fuel rest
    | tokens => .ok (empty, tokens)
/-- The items of a flow sequence.  One with a key is a mapping of one entry. -/
def flowItems (first : Bool) : (fuel : Nat) → List Token → Except Intrinsic (List Node × List Token)
  | 0, tokens => unexpected tokens
  | fuel + 1, tokens =>
    match first, tokens with
    | _, .flowSequenceEnd :: rest => .ok ([], rest)
    | false, .flowEntry :: .flowSequenceEnd :: rest => .ok ([], rest)
    | true, rest | false, .flowEntry :: rest => do
      let (item, rest) ←
        match rest with
        | .key :: rest => do
          let (key, rest) ←
            if comes [.value, .flowEntry, .flowSequenceEnd] rest then .ok (empty, rest)
            else ofFront false fuel rest
          let (value, rest) ← flowValue .flowSequenceEnd fuel rest
          .ok (mapping [(key, value)], rest)
        | rest => ofFront false fuel rest
      let (items, rest) ← flowItems false fuel rest
      .ok (item :: items, rest)
    | false, tokens => unexpected tokens
/-- The entries of a flow mapping.  A node without a key mark is a key alone. -/
def flowEntries (first : Bool) :
    (fuel : Nat) → List Token → Except Intrinsic (List (Node × Node) × List Token)
  | 0, tokens => unexpected tokens
  | fuel + 1, tokens =>
    match first, tokens with
    | _, .flowMappingEnd :: rest => .ok ([], rest)
    | false, .flowEntry :: .flowMappingEnd :: rest => .ok ([], rest)
    | true, rest | false, .flowEntry :: rest => do
      let (entry, rest) ←
        match rest with
        | .key :: rest => do
          let (key, rest) ←
            if comes [.value, .flowEntry, .flowMappingEnd] rest then .ok (empty, rest)
            else ofFront false fuel rest
          let (value, rest) ← flowValue .flowMappingEnd fuel rest
          .ok ((key, value), rest)
        | rest => do
          let (key, rest) ← ofFront false fuel rest
          .ok ((key, empty), rest)
      let (entries, rest) ← flowEntries false fuel rest
      .ok (entry :: entries, rest)
    | false, tokens => unexpected tokens
/-- The value of a flow entry. -/
def flowValue (close : Token) : (fuel : Nat) → List Token → Except Intrinsic (Node × List Token)
  | 0, tokens => unexpected tokens
  | fuel + 1, tokens =>
    match tokens with
    | .value :: rest =>
      if comes [.flowEntry, close] rest then .ok (empty, rest) else ofFront false fuel rest
    | tokens => .ok (empty, tokens)
end

/-- The content of a document. -/
def content (fuel : Nat) (tokens : List Token) : Except Intrinsic (Node × List Token) :=
  if comes [.documentStart, .documentEnd] tokens then .ok (empty, tokens)
  else ofFront true fuel tokens

/-- Nothing but the ends of documents may follow. -/
def atEnd (tokens : List Token) : Except Intrinsic Unit :=
  match tokens.dropWhile (· == .documentEnd) with
  | [] => .ok ()
  | .documentStart :: _ => .error .composer
  | rest => unexpected rest

/-- The one document of a text, none if there is none. -/
def ofTokens? (tokens : List Token) : Except Intrinsic (Option Node) := do
  let fuel := 4 * tokens.length + 4
  match tokens.dropWhile (· == .documentEnd) with
  | [] => .ok none
  | .documentStart :: rest =>
    let (node, rest) ← content fuel rest
    atEnd rest
    .ok (some node)
  | _ =>
    let (node, rest) ← ofFront true fuel tokens
    atEnd rest
    .ok (some node)

/-! ## Values -/

mutual
/-- The value of a node. -/
def value : Node → Except Intrinsic Value
  | scalar text plain => .ok (if plain then plainValue text else .str text)
  | sequence items => (values items).map .list
  | mapping entries => (entryValues entries).map fun es => .dict (Value.ofEntries es)
/-- The values of items. -/
def values : List Node → Except Intrinsic (List Value)
  | [] => .ok []
  | n :: ns => do
    let v ← value n
    let vs ← values ns
    .ok (v :: vs)
/-- The keys and values of entries. -/
def entryValues : List (Node × Node) → Except Intrinsic (List (Value × Value))
  | [] => .ok []
  | (k, n) :: es => do
    let key ← value k
    if key.isKey then
      let v ← value n
      let vs ← entryValues es
      .ok ((key, v) :: vs)
    else .error .constructor
end

end Node

/-- The value of a text, nothing if it holds no document. -/
def read (text : String) : Except Error Value :=
  let made := do
    match ← Node.ofTokens? (Token.scan text) with
    | some node => node.value
    | none => .ok .nothing
  made.mapError Error.intrinsic

end Conformance.Yaml
