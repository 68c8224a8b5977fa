import TagTemplate.Context
import TagTemplate.Expr

/-!
# Evaluation of expressions

An expression is evaluated in a context that does not change. What may change is what the host
remembers, as methods can count and cancel. Operands are evaluated from left to right; the right
operand of a logical operator only if the left one leaves the result open.
-/

namespace TagTemplate

/-- An evaluation that may fail. What the host remembers survives the failure. -/
abbrev Eval (α : Type) := ExceptT EvalError (StateM Host) α

/-- A result that needs no host as an evaluation. -/
def Eval.ofExcept {α : Type} (result : Except EvalError α) : Eval α :=
  match result with
  | .ok v => pure v
  | .error error => throw error

/-- An invocation as an evaluation. -/
def Context.invoking (c : Context) (target : Option Value) (name : String)
    (args : List Value) : Eval Value := do
  let (result, after) := c.invoke target name args (← get)
  set after
  Eval.ofExcept result

namespace Expr

/-- The value of an operand whose evaluation is `value`. A name stands for itself where the
operator takes a name. -/
def operandValue (byName : Bool) (e : Expr) (value : Eval Value) : Eval Value :=
  match byName, e with
  | true, .identifier name => pure (.text name)
  | _, _ => value

mutual

/-- The value of an expression. -/
def eval (c : Context) : Expr → Eval Value
  | .literal v => pure v
  | .identifier name => Eval.ofExcept (c.resolve name)
  | .unary op operand =>
    match op.rightName, op.operation, operand with
    | true, .defined, .identifier name => pure (.bool (c.isDefined name))
    | takesName, _, _ => do
      return op.operation.unary (← operandValue takesName operand (eval c operand))
  | .binary op left right => do
    let l ← operandValue op.leftName left (eval c left)
    match op.operation.shortCircuit l with
    | some v => return v
    | none =>
      let r ← operandValue op.rightName right (eval c right)
      return op.operation.binary c.dialect.coercion c.dialect.collation l r
  | .member target name => do Eval.ofExcept (c.member (← eval c target) name)
  | .list items => return .list (← evalAll c items)
  | .invoke target args =>
    match target with
    | .identifier name => do c.invoking none name (← evalAll c args)
    | .member object name => do
      let o ← eval c object
      c.invoking (some o) name (← evalAll c args)
    | _ => throw (.failed "invalid invocation target")
  | .index target key => do
    let t ← eval c target
    let k ← eval c key
    Eval.ofExcept (c.index t k)
termination_by structural e => e

/-- The values of expressions, in order. -/
def evalAll (c : Context) : List Expr → Eval (List Value)
  | [] => pure []
  | e :: rest => do
    let v ← eval c e
    return v :: (← evalAll c rest)
termination_by structural es => es

end

end Expr

end TagTemplate
