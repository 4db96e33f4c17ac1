import Conformance.Descriptor.Build

/-!
# Conformance.Proofs.Descriptor.Request

A call of a builder in two stages: its arguments are put in their places
(`Factory.request`), and what is then asked for is built (`Request.build`).
`Factory.call` is the one behind the other (`call_eq_build`).

The first stage fails exactly for arguments that are too few, too many, given
twice or given by an unknown name, so a call with the right arguments is one
that comes to a request.
-/

namespace Conformance

open Descriptor

/-- The arguments of a builder in their places. -/
inductive Factory.Request
  | any
  | primitive (name kind range : Value)
  | enum (name labels : Value)
  | struct (name fields : Value)
  /-- fields in one argument, and further ones by name -/
  | listed (fields : Value) (further : List (String × Value))
  | pair (name first second : Value)
  | vector (name length element : Value)
  | maybe (name inner : Value)
  | fn (name input output : Value)
  | named (target name : Value)

namespace Factory.Request

/-- The fields in the one argument of the short form of a struct, which may be
left out. -/
def leadingItems : Value → Except Error (List Value)
  | .nothing => .ok []
  | v => fieldItems v

/-- The fields of the short form of a struct: those of the one argument, then
those given by name. -/
def listedItems (fields : Value) (further : List (String × Value)) : Except Error (List Value) :=
  (leadingItems fields).map fun listed =>
    listed ++ further.map fun n => .tuple [.str n.1, n.2]

/-- Builds what is asked for. -/
def build : Request → Except Error Descriptor
  | any => refuse .abstract
  | primitive name kind range => buildPrimitive name kind range
  | enum name labels => buildEnum name labels
  | struct name fields => buildStruct name fields
  | listed fields further => do
    let items ← listedItems fields further
    buildStruct .nothing (.tuple items)
  | pair name first second => buildPair name first second
  | vector name length element => buildVector name length element
  | maybe name inner => buildMaybe name inner
  | fn name input output => buildFn name input output
  | named target name => buildNamed target name

end Factory.Request

namespace Factory

/-- The parameters of a builder, the display name of a constructor apart. -/
def parameters : Factory → List (String × Option Value)
  | anyType | enumOf | struct => []
  | primitiveType => [("kind", none), ("range", some .nothing)]
  | enumType => required ["labels"]
  | structType => required ["fields"]
  | pairType | pair => required ["first", "second"]
  | vectorType | vector => required ["length", "element"]
  | maybeType | maybe => required ["inner"]
  | fnType | fn => required ["input", "output"]
  | intRange => [("low", none), ("high", none), ("kind", some (.str IntegerKind.int.text))]
  | named => required ["descriptor", "name"]

/-- Whether a builder is a constructor, which takes a display name. -/
def isConstructor : Factory → Bool
  | anyType | primitiveType | enumType | structType | pairType | vectorType | maybeType
  | fnType => true
  | intRange | enumOf | struct | pair | vector | maybe | fn | named => false

/-- What is asked for by one argument for each parameter. -/
def ask : Factory → (name : Value) → List Value → Except Error Request
  | anyType, _, _ => .ok .any
  | primitiveType, name, [kind, range] => .ok (.primitive name kind range)
  | enumType, name, [labels] => .ok (.enum name labels)
  | structType, name, [fields] => .ok (.struct name fields)
  | pairType, name, [first, second] | pair, name, [first, second] =>
    .ok (.pair name first second)
  | vectorType, name, [length, element] | vector, name, [length, element] =>
    .ok (.vector name length element)
  | maybeType, name, [inner] | maybe, name, [inner] => .ok (.maybe name inner)
  | fnType, name, [input, output] | fn, name, [input, output] => .ok (.fn name input output)
  | intRange, name, [low, high, kind] => .ok (.primitive name kind (.tuple [low, high]))
  | named, _, [target, name] => .ok (.named target name)
  | _, _, _ => .error (.intrinsic .type)

/-- What the short form of a struct asks for. -/
def askStruct (args : List Value) (named : List (String × Value)) : Except Error Request :=
  let further := named.filter fun n => n.1 != "fields"
  match args, named.lookup "fields" with
  | [], none => .ok (.listed .nothing further)
  | [], some v | [v], none => .ok (.listed v further)
  | _, _ => .error (.intrinsic .type)

/-- The display name and one argument for each parameter. -/
def place (f : Factory) (args : List Value) (named : List (String × Value)) :
    Except Error (Value × List Value) :=
  if f.isConstructor then distributeFields args named f.parameters
  else (distribute args named f.parameters).map fun vs => (.nothing, vs)

/-- What a call asks for. -/
def request (f : Factory) (args : List Value) (named : List (String × Value)) :
    Except Error Request :=
  match f with
  | enumOf =>
    if (mergeNamed named).isEmpty then .ok (.enum .nothing (.tuple args))
    else .error (.intrinsic .type)
  | struct => askStruct args (mergeNamed named)
  | f => f.place args (mergeNamed named) >>= fun placed => f.ask placed.1 placed.2

/-- A struct is asked for and then built. -/
theorem callStruct_eq (args : List Value) (named : List (String × Value)) :
    callStruct args named = askStruct args named >>= Request.build := by
  unfold callStruct askStruct
  generalize named.lookup "fields" = given
  rcases args with _ | ⟨v, _ | ⟨w, args⟩⟩ <;> rcases given with _ | u
  · rfl
  · cases u <;> rfl
  · cases v <;> rfl
  · rfl
  · rfl
  · rfl

/-- A call puts its arguments in their places and builds what they ask for. -/
theorem call_eq_build (f : Factory) (args : List Value) (named : List (String × Value)) :
    f.call args named = f.request args named >>= Request.build := by
  cases f
  case struct => exact callStruct_eq args _
  case enumOf =>
    simp only [call, request]
    split <;> rfl
  case anyType =>
    simp only [call, request, place, isConstructor, if_true, parameters]
    cases distributeFields args (mergeNamed named) [] <;> rfl
  case intRange | pair | vector | maybe | fn | named =>
    simp only [call, request, place, isConstructor, parameters]
    generalize distribute args (mergeNamed named) _ = placed
    -- no builder has more than three parameters
    rcases placed with error | (_ | ⟨_, _ | ⟨_, _ | ⟨_, _ | ⟨_, _⟩⟩⟩⟩) <;> rfl
  all_goals
    simp only [call, request, place, isConstructor, if_true, parameters]
    generalize distributeFields args (mergeNamed named) _ = placed
    rcases placed with error | ⟨_, _ | ⟨_, _ | ⟨_, _ | ⟨_, _⟩⟩⟩⟩ <;> rfl

end Factory

end Conformance
