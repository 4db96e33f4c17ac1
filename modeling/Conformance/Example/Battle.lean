import Conformance.Script.Statement

/-!
# Conformance.Example.Battle

A small battle model.  Fighters have stats, an element and perhaps a title;
a hit does as much damage as the attack exceeds the armor, twice as much at
an advantage of elements.

Two invariants are declared.  The second is wrong on purpose: armor can
exceed attack, and the report names the field that breaks it.
-/

namespace Conformance.Example.Battle

/-! ## Shapes -/

def stats : Descriptor :=
  .struct (some "Stats")
    [("atk", .ofInteger .uint8), ("def_", .ofInteger .uint8), ("hp", .ofInteger .uint16)]

def element : Descriptor := .enum none ["fire", "water", "grass"]

def fighter : Descriptor :=
  .struct (some "Fighter") [("stats", stats), ("element", element), ("title", .maybe none element)]

/-! ## Damage -/

/-- A field of an expression. -/
def field (e : Expr) (name : String) : Expr := .binary .index e (.lit (.str name))

/-- The attacker and the defender of a matchup. -/
def attacker : Expr := .binary .index (.arg 0) (.lit (.int 0))

def defender : Expr := .binary .index (.arg 0) (.lit (.int 1))

/-- The pairs of elements of which the first has an advantage over the second. -/
def advantages : List (String × String) :=
  [("fire", "grass"), ("water", "fire"), ("grass", "water")]

/-- By how much the attack exceeds the armor. -/
def base : Expr :=
  .greatest
    [.binary .sub (field (field attacker "stats") "atk") (field (field defender "stats") "def_"),
      .lit (.int 0)]

/-- Whether the attacker has an advantage. -/
def hasAdvantage : Expr :=
  .binary .contains (.tuple [field attacker "element", field defender "element"])
    (.lit (.tuple (advantages.map fun a => .tuple [.str a.1, .str a.2])))

/-- The damage of a hit. -/
def damageBody : Expr := .ite hasAdvantage (.binary .mul base (.lit (.int 2))) base

/-- The signature of the damage of a hit. -/
def damageSignature : Descriptor :=
  .fn none (.pair none fighter fighter) (.ofInteger .uint16)

/-! ## Invariants -/

/-- The damage that one drawn fighter does to another. -/
def damage : Expr := .call "damage" (.tuple [.arg 0, .arg 1])

/-- A comparison of the damage with zero. -/
def damageIs (c : Value.Comparison) : Expr := .binary (.compare c) damage (.lit (.int 0))

/-- Adds a function to a library, as a value. -/
def defined (lib : Library) (name : String) (body : Expr) : Library × Value :=
  let (lib, f) := lib.define (some name) (some name) none name name body
  (lib, .function f)

/-- The declaration of an invariant of two fighters. -/
def ofFighters (name : String) (predicate : Value) : Statement :=
  .declare true
    { descriptors := .list [.descriptor fighter, .descriptor fighter], predicate, name }

/-- The functions of the example and its script. -/
def build : Library × Script :=
  let (lib, body) := defined {} "damage" damageBody
  let (lib, neverNegative) := defined lib "neverNegative" (damageIs .ge)
  let (lib, alwaysHurts) := defined lib "alwaysHurts" (damageIs .gt)
  (lib,
    [.annotate (.descriptor damageSignature) body "damage",
      ofFighters "damage is never negative" neverNegative,
      ofFighters "every hit lands" alwaysHurts])

/-- The functions of the example. -/
def library : Library := build.1

/-- The script of the example. -/
def script : Script := build.2

end Conformance.Example.Battle
