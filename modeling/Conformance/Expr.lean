import Conformance.Checked

/-!
# Conformance.Expr

The expressions that the bodies of declared functions are made of, and
their evaluation.  Operands are evaluated from left to right, all of them,
except that a conditional evaluates one branch and `and` and `or` stop at
the operand that decides, which is their result.
-/

namespace Conformance

/-- The operations on two values. -/
inductive Operation
  | add | sub | mul | rem | index | contains | equal | unequal
  | compare (c : Value.Comparison)
  | conforms | check
deriving DecidableEq, Repr, Inhabited

/-- The operations on one value. -/
inductive Function
  | not | len | sum | str | just | unjust | isNothing
deriving DecidableEq, Repr, Inhabited

/-- An expression. -/
inductive Expr
  /-- an argument of the function, counted from the back if negative -/
  | arg (i : Int)
  | lit (v : Value)
  | ite (condition yes no : Expr)
  | and (operands : List Expr)
  | or (operands : List Expr)
  | raise (e : Error)
  /-- the call of a named function -/
  | call (name : String) (argument : Expr)
  | list (items : List Expr)
  | tuple (items : List Expr)
  /-- a mapping of keys and values in turn -/
  | dict (parts : List Expr)
  | unary (f : Function) (operand : Expr)
  | binary (op : Operation) (left right : Expr)
  | least (operands : List Expr)
  | greatest (operands : List Expr)
deriving Repr, Inhabited

namespace Function

/-- An operation on one value. -/
def apply (f : Function) (t : Traced) : Except Error Traced :=
  match f with
  | not => .ok (.fresh (.bool (!t.value.truthy)))
  | len => t.value.length.map fun n => .fresh (.int n)
  | sum => t.sum.map .fresh
  | str => .ok t.toText
  | just => .ok (.just t)
  | unjust => t.unwrap
  | isNothing =>
    match t.value with
    | .nothing => .ok (.fresh (.bool true))
    | _ => .ok (.fresh (.bool false))

end Function

namespace Operation

/-- An operation on two values. -/
def apply (op : Operation) (a b : Traced) : Except Error Traced :=
  match op with
  | add => a.add b
  | sub => (a.value.sub b.value).map .fresh
  | mul => a.mul b
  | rem => (a.value.rem b.value).map .fresh
  | index => a.index b.value
  | contains => (a.value.contains b.value).map fun r => .fresh (.bool r)
  | equal => .ok (.fresh (.bool (a.value.same b.value)))
  | unequal => .ok (.fresh (.bool (!a.value.same b.value)))
  | compare c => (a.value.compareBy c b.value).map fun r => .fresh (.bool r)
  | conforms => a.value.variant.map fun d => .fresh (.bool (d.conforms b.value))
  | check => do
    let d ← a.value.variant
    let _ ← d.check b.value
    pure b

end Operation

namespace Expr

mutual
/-- The value of an expression, given its arguments and what a call of a
named function does. -/
def eval (call : String → Traced → Run Traced) (args : List Traced) : Expr → Run Traced
  | arg i => Run.ofExcept (Value.itemOf args i)
  | lit v => pure (.whole v .given)
  | ite condition yes no => do
    let c ← eval call args condition
    if c.value.truthy then eval call args yes else eval call args no
  | and operands => evalWhile call args true operands
  | or operands => evalWhile call args false operands
  | raise e => Run.raise e
  | .call name argument => do
    let x ← eval call args argument
    call name x
  | list items => do
    let ts ← evalAll call args items
    pure (.list ts)
  | tuple items => do
    let ts ← evalAll call args items
    pure (.tuple ts)
  | dict parts => do
    let ts ← evalAll call args parts
    let entries ← Run.ofExcept (Traced.ofPairs ts)
    pure (.ofEntries entries)
  | unary f operand => do
    let t ← eval call args operand
    Run.ofExcept (f.apply t)
  | binary op left right => do
    let a ← eval call args left
    let b ← eval call args right
    Run.ofExcept (op.apply a b)
  | least operands => do
    let ts ← evalAll call args operands
    Run.ofExcept (Traced.extremeOf .lt ts)
  | greatest operands => do
    let ts ← evalAll call args operands
    Run.ofExcept (Traced.extremeOf .gt ts)
/-- The values of expressions, from left to right. -/
def evalAll (call : String → Traced → Run Traced) (args : List Traced) :
    List Expr → Run (List Traced)
  | [] => pure []
  | e :: es => do
    let t ← eval call args e
    let ts ← evalAll call args es
    pure (t :: ts)
/-- The first value whose truth is not `wanted`, or else the last. -/
def evalWhile (call : String → Traced → Run Traced) (args : List Traced) (wanted : Bool) :
    List Expr → Run Traced
  | [] => pure (.fresh (.bool wanted))
  | [e] => eval call args e
  | e :: es => do
    let t ← eval call args e
    if t.value.truthy = wanted then evalWhile call args wanted es else pure t
end

end Expr

end Conformance
