import Conformance.Error

/-!
# Conformance.Descriptor.Build

Descriptors built from arbitrary arguments.  Each builder checks what it is
given and refuses what does not make a descriptor, naming the first thing
that is wrong (`Malformed`).  The checks of a variant come in this order:
the display name, then the fields in their order, and of a field first its
type and then its content.

`Factory.call` is the front: a builder named, with arguments by position and
by name.  An argument that is missing, unknown, given twice, or cannot be
gone through where a sequence is expected is an operation without an answer.
-/

namespace Conformance

/-- What is wrong with the arguments of a descriptor. -/
inductive Malformed
  | abstract
  | name (given : Value)
  | kind (given : Value)
  | rangeNotTaken (kind : Kind)
  | bounds (kind : IntegerKind) (given : Value)
  | emptyRange (kind : IntegerKind) (low high : Int)
  | wideRange (kind : IntegerKind) (low high : Int)
  | labelsAsText
  | noLabels
  | label (given : Value)
  | repeatedLabels (labels : List String)
  | field (given : Value)
  | fieldName (given : Value)
  | repeatedField (name : String)
  | component (role : String) (given : Value)
  | length (given : Value)
deriving Repr

namespace Malformed

/-- A range as a closed interval. -/
def intervalText (low high : Int) : String :=
  "[" ++ toString low ++ ", " ++ toString high ++ "]"

/-- The wording. -/
def text : Malformed → String
  | abstract => "TypeDescriptor is abstract; use a variant"
  | name v => "descriptor name must be a non-empty string, got " ++ v.written
  | kind v => "unknown primitive kind " ++ v.written
  | rangeNotTaken k => k.text ++ " does not take a range"
  | bounds k v => k.text ++ " range bounds must be integers, got " ++ v.written
  | emptyRange k low high => k.text ++ " range is empty: " ++ intervalText low high
  | wideRange k low high =>
    k.text ++ " range " ++ intervalText low high ++ " exceeds " ++ intervalText k.low k.high
  | labelsAsText => "enum labels must be a sequence of strings, not a string"
  | noLabels => "enum needs at least one label"
  | label v => "enum label must be a string, got " ++ v.written
  | repeatedLabels labels =>
    "enum labels must be unique: " ++ tupleText (labels.map Text.quoted)
  | field v => "struct field must be a (name, descriptor) pair, got " ++ v.written
  | fieldName v => "struct field name must be a non-empty string, got " ++ v.written
  | repeatedField n => "duplicate struct field " ++ Text.quoted n
  | component role v => role ++ " must be a TypeDescriptor, got " ++ v.written
  | length v => "vector length must be a positive integer, got " ++ v.written

end Malformed

namespace Descriptor

/-- Refuses malformed arguments. -/
def refuse {α : Type} (m : Malformed) : Except Error α :=
  .error (.descriptor m.text)

/-- A display name: none, or text that is not empty. -/
def checkName : Value → Except Error (Option String)
  | .nothing => .ok none
  | .str s => if s.isEmpty then refuse (.name (.str s)) else .ok (some s)
  | v => refuse (.name v)

/-- A component, in the role that a message names. -/
def checkComponent (role : String) : Value → Except Error Descriptor
  | .descriptor d => .ok d
  | v => refuse (.component role v)

/-- The items of a value that is gone through. -/
def checkItems (v : Value) : Except Error (List Value) :=
  match v.items? with
  | some items => .ok items
  | none => .error (.intrinsic .type)

/-! ## Primitives -/

/-- A primitive kind: the text of one. -/
def checkKind (v : Value) : Except Error Kind :=
  match v with
  | .str s =>
    match Kind.ofText? s with
    | some kind => .ok kind
    | none => refuse (.kind v)
  | _ => refuse (.kind v)

/-- A range of an integer kind: two integers in order, within the kind. -/
def checkRange (kind : IntegerKind) (range : Value) : Except Error (Int × Int) := do
  match ← checkItems range with
  | [.int low, .int high] =>
    if high < low then refuse (.emptyRange kind low high)
    else if low < kind.low ∨ kind.high < high then refuse (.wideRange kind low high)
    else .ok (low, high)
  | [_, _] => refuse (.bounds kind range)
  | _ => .error (.intrinsic .value)

/-- A primitive.  Without a range an integer kind has its full one. -/
def buildPrimitive (name kind range : Value) : Except Error Descriptor := do
  let name ← checkName name
  match ← checkKind kind, range with
  | .integer kind, .nothing => .ok (integer name kind kind.low kind.high)
  | .integer kind, range =>
    let (low, high) ← checkRange kind range
    .ok (integer name kind low high)
  | kind, .nothing => .ok ((ofKind kind).withName name)
  | kind, _ => refuse (.rangeNotTaken kind)

/-! ## Enums and structs -/

/-- Labels that are all text. -/
def checkLabels : List Value → Except Error (List String)
  | [] => .ok []
  | .str s :: labels => (checkLabels labels).map (s :: ·)
  | v :: _ => refuse (.label v)

/-- An enum: a sequence of one or more labels, no two of them equal. -/
def buildEnum (name labels : Value) : Except Error Descriptor := do
  let name ← checkName name
  match labels with
  | .str _ => refuse .labelsAsText
  | labels =>
    let items ← checkItems labels
    if items.isEmpty then refuse .noLabels
    else
      let labels ← checkLabels items
      if labels.Nodup then .ok (enum name labels) else refuse (.repeatedLabels labels)

/-- The field that an item stands for, behind the names already taken. -/
def checkField (taken : List String) (item : Value) : Except Error (String × Descriptor) :=
  match item.items? with
  | some [fieldName, component] =>
    match fieldName with
    | .str n =>
      if n.isEmpty then refuse (.fieldName fieldName)
      else if taken.contains n then refuse (.repeatedField n)
      else (checkComponent ("struct field " ++ Text.quoted n) component).map fun d => (n, d)
    | _ => refuse (.fieldName fieldName)
  | _ => refuse (.field item)

/-- The fields that items stand for, in their order. -/
def checkFields : (taken : List String) → List Value → Except Error (List (String × Descriptor))
  | _, [] => .ok []
  | taken, item :: items => do
    let f ← checkField taken item
    let fs ← checkFields (f.1 :: taken) items
    .ok (f :: fs)

/-- The items of a mapping are its entries, each a pair of key and value. -/
def fieldItems : Value → Except Error (List Value)
  | .dict entries => .ok (entries.map fun e => .tuple [e.1, e.2])
  | v => checkItems v

/-- A struct: a mapping or a sequence of pairs of name and descriptor. -/
def buildStruct (name fields : Value) : Except Error Descriptor := do
  let name ← checkName name
  let items ← fieldItems fields
  let fields ← checkFields [] items
  .ok (struct name fields)

/-! ## The other composites -/

def buildPair (name first second : Value) : Except Error Descriptor := do
  let name ← checkName name
  let first ← checkComponent "pair first component" first
  let second ← checkComponent "pair second component" second
  .ok (pair name first second)

/-- The length of a vector: a positive integer. -/
def checkLength : Value → Except Error Nat
  | .int n => if 0 < n then .ok n.toNat else refuse (.length (.int n))
  | v => refuse (.length v)

def buildVector (name length element : Value) : Except Error Descriptor := do
  let name ← checkName name
  let length ← checkLength length
  let element ← checkComponent "vector element" element
  .ok (vector name length element)

def buildMaybe (name inner : Value) : Except Error Descriptor := do
  let name ← checkName name
  let inner ← checkComponent "maybe inner" inner
  .ok (maybe name inner)

def buildFn (name input output : Value) : Except Error Descriptor := do
  let name ← checkName name
  let input ← checkComponent "function input" input
  let output ← checkComponent "function output" output
  .ok (fn name input output)

/-- A copy of a descriptor that is written as `name`. -/
def buildNamed (target name : Value) : Except Error Descriptor := do
  let d ← checkComponent "named() target" target
  let name ← checkName name
  .ok (d.withName name)

end Descriptor

/-! ## Calls by name -/

/-- The builders: the constructors of the variants, which take a display name
by the name `name`, and the shorter forms, which do not. -/
inductive Factory
  | anyType | primitiveType | enumType | structType | pairType | vectorType | maybeType | fnType
  | intRange | enumOf | struct | pair | vector | maybe | fn | named
deriving DecidableEq, Repr

namespace Factory

/-- The name of a builder. -/
def text : Factory → String
  | anyType => "TypeDescriptor"
  | primitiveType => "Primitive"
  | enumType => "EnumType"
  | structType => "Struct"
  | pairType => "Pair"
  | vectorType => "Vector"
  | maybeType => "Maybe"
  | fnType => "Fn"
  | intRange => "int_range"
  | enumOf => "enum_of"
  | struct => "struct"
  | pair => "pair"
  | vector => "vector"
  | maybe => "maybe"
  | fn => "fn"
  | named => "named"

def all : List Factory :=
  [anyType, primitiveType, enumType, structType, pairType, vectorType, maybeType, fnType,
    intRange, enumOf, struct, pair, vector, maybe, fn, named]

def ofText? (s : String) : Option Factory := all.find? (·.text == s)

/-- Arguments by name; a later one replaces an earlier one of its name. -/
def mergeNamed (named : List (String × Value)) : List (String × Value) :=
  named.foldl (fun ns n =>
    if ns.any (·.1 == n.1) then ns.map fun m => if m.1 == n.1 then n else m else ns ++ [n]) []

/-- Distributes arguments over parameters, some of which have defaults. -/
def distribute (args : List Value) (named : List (String × Value)) :
    List (String × Option Value) → Except Error (List Value)
  | [] => if args.isEmpty ∧ named.isEmpty then .ok [] else .error (.intrinsic .type)
  | (parameter, otherwise) :: parameters =>
    let given := named.lookup parameter
    let rest := named.filter fun n => n.1 != parameter
    match args, given with
    | v :: args, none => (distribute args rest parameters).map (v :: ·)
    | _ :: _, some _ => .error (.intrinsic .type)
    | [], some v => (distribute [] rest parameters).map (v :: ·)
    | [], none =>
      match otherwise with
      | some v => (distribute [] rest parameters).map (v :: ·)
      | none => .error (.intrinsic .type)

/-- Distributes the arguments of a constructor: fields by position or name,
the display name by name only. -/
def distributeFields (args : List Value) (named : List (String × Value))
    (parameters : List (String × Option Value)) : Except Error (Value × List Value) :=
  let name := (named.lookup "name").getD .nothing
  (distribute args (named.filter fun n => n.1 != "name") parameters).map fun vs => (name, vs)

/-- Parameters without defaults. -/
def required (parameters : List String) : List (String × Option Value) :=
  parameters.map fun p => (p, none)

open Descriptor

/-- The short form of a struct: fields in one argument, then each further
argument by name. -/
def callStruct (args : List Value) (named : List (String × Value)) : Except Error Descriptor := do
  let fields ←
    match args, named.lookup "fields" with
    | [], none => .ok .nothing
    | [], some v | [v], none => .ok v
    | _, _ => .error (.intrinsic .type)
  let listed ←
    match fields with
    | .nothing => .ok []
    | v => fieldItems v
  let extra := (named.filter fun n => n.1 != "fields").map fun n => .tuple [.str n.1, n.2]
  buildStruct .nothing (.tuple (listed ++ extra))

/-- Calls a builder. -/
def call (f : Factory) (args : List Value) (named : List (String × Value)) :
    Except Error Descriptor := do
  let named := mergeNamed named
  match f with
  | anyType =>
    let _ ← distributeFields args named []
    refuse .abstract
  | primitiveType =>
    match ← distributeFields args named [("kind", none), ("range", some .nothing)] with
    | (name, [kind, range]) => buildPrimitive name kind range
    | _ => .error (.intrinsic .type)
  | enumType =>
    match ← distributeFields args named (required ["labels"]) with
    | (name, [labels]) => buildEnum name labels
    | _ => .error (.intrinsic .type)
  | structType =>
    match ← distributeFields args named (required ["fields"]) with
    | (name, [fields]) => buildStruct name fields
    | _ => .error (.intrinsic .type)
  | pairType =>
    match ← distributeFields args named (required ["first", "second"]) with
    | (name, [first, second]) => buildPair name first second
    | _ => .error (.intrinsic .type)
  | vectorType =>
    match ← distributeFields args named (required ["length", "element"]) with
    | (name, [length, element]) => buildVector name length element
    | _ => .error (.intrinsic .type)
  | maybeType =>
    match ← distributeFields args named (required ["inner"]) with
    | (name, [inner]) => buildMaybe name inner
    | _ => .error (.intrinsic .type)
  | fnType =>
    match ← distributeFields args named (required ["input", "output"]) with
    | (name, [input, output]) => buildFn name input output
    | _ => .error (.intrinsic .type)
  | intRange =>
    match ← distribute args named
        [("low", none), ("high", none), ("kind", some (.str IntegerKind.int.text))] with
    | [low, high, kind] => buildPrimitive .nothing kind (.tuple [low, high])
    | _ => .error (.intrinsic .type)
  | enumOf =>
    if named.isEmpty then buildEnum .nothing (.tuple args) else .error (.intrinsic .type)
  | struct => callStruct args named
  | pair =>
    match ← distribute args named (required ["first", "second"]) with
    | [first, second] => buildPair .nothing first second
    | _ => .error (.intrinsic .type)
  | vector =>
    match ← distribute args named (required ["length", "element"]) with
    | [length, element] => buildVector .nothing length element
    | _ => .error (.intrinsic .type)
  | maybe =>
    match ← distribute args named (required ["inner"]) with
    | [inner] => buildMaybe .nothing inner
    | _ => .error (.intrinsic .type)
  | fn =>
    match ← distribute args named (required ["input", "output"]) with
    | [input, output] => buildFn .nothing input output
    | _ => .error (.intrinsic .type)
  | .named =>
    match ← distribute args named (required ["descriptor", "name"]) with
    | [target, name] => buildNamed target name
    | _ => .error (.intrinsic .type)

end Factory

end Conformance
