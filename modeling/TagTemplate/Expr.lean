import TagTemplate.Operator

/-!
# Expressions

The tree that an expression slot of a tag is read into. Trees are evaluated any number of times
against changing variables.
-/

namespace TagTemplate

/-- An expression. -/
inductive Expr where
  /-- A value written in the template, or a constant. -/
  | literal (v : Value)
  /-- A free name. -/
  | identifier (name : String)
  /-- A prefix operator and its operand. -/
  | unary (op : Operator) (operand : Expr)
  /-- An infix operator and its operands. -/
  | binary (op : Operator) (left right : Expr)
  /-- A member of an object. -/
  | member (target : Expr) (name : String)
  /-- A list of items. -/
  | list (items : List Expr)
  /-- An invocation of a name or of a member. -/
  | invoke (target : Expr) (args : List Expr)
  /-- An item at a position, or a member of a computed name. -/
  | index (target key : Expr)

namespace Expr

/-- The name, if the expression is nothing but a name. -/
def name? : Expr → Option String
  | .identifier name => some name
  | _ => none

/-- Whether the expression may be invoked: names and members may. -/
def isInvocable : Expr → Bool
  | .identifier _ => true
  | .member _ _ => true
  | _ => false

end Expr

end TagTemplate
