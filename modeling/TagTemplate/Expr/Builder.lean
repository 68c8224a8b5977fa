import TagTemplate.Expr
import TagTemplate.Operator.Table

/-!
# Reading expressions

A builder takes the pieces of an expression one by one. Operands wait on one stack, operators
and open groups on another; an operator is applied as soon as one that binds no tighter comes
in, and a group when it is closed. What a symbol means is decided by one bit: whether an operand
is expected. A refused piece leaves the builder as far as it had come.
-/

namespace TagTemplate

/-- Why a piece does not continue an expression, or why the expression is not whole. -/
inductive ExprError where
  /-- A literal stands where an operator is expected. -/
  | unexpectedLiteral (literal : String)
  /-- A name stands where an operator is expected. -/
  | unexpectedIdentifier (name : String)
  /-- An operator stands where it has no reading. -/
  | unexpectedOperator (symbol : String)
  /-- No operator has this symbol. -/
  | unknownOperator (symbol : String)
  /-- The operator applies to names only. -/
  | nameExpected (symbol : String)
  /-- A group is closed that is not open, or left open. -/
  | unbalanced (symbol : String)
  /-- A group that holds one expression has none or several. -/
  | invalidGroup (symbol : String)
  /-- Something other than a name or a member is invoked. -/
  | notInvocable
  /-- An operand is missing. -/
  | incomplete
  deriving DecidableEq, Repr

/-- The wording of an error. -/
def ExprError.message : ExprError → String
  | .unexpectedLiteral literal =>
    "unexpected literal `" ++ literal ++ "`: an operator is required before it"
  | .unexpectedIdentifier name =>
    "unexpected identifier `" ++ name ++ "`: an operator is required before it"
  | .unexpectedOperator symbol => "unexpected operator `" ++ symbol ++ "`"
  | .unknownOperator symbol => "unknown operator `" ++ symbol ++ "`"
  | .nameExpected symbol => "operator `" ++ symbol ++ "` requires an identifier operand"
  | .unbalanced symbol => "unbalanced `" ++ symbol ++ "`"
  | .invalidGroup symbol => "`" ++ symbol ++ "` group must contain exactly one expression"
  | .notInvocable => "only names and members can be invoked"
  | .incomplete => "cannot construct expression: input is empty or incomplete"

/-- What waits for its operands or for its end. -/
inductive Pending where
  /-- A prefix operator before its operand. -/
  | prefixed (op : Operator)
  /-- An infix operator after its left operand. -/
  | infixed (op : Operator)
  /-- An open group: what it applies to, its items so far, and the number of operands that were
  waiting when it opened. -/
  | group (op : Operator) (target : Option Expr) (items : List Expr) (base : Nat)

namespace Pending

/-- Whether the entry is applied before an operator of the given precedence comes in. -/
def reducesBefore (p : Pending) (precedence : Nat) (assoc : Associativity) : Bool :=
  match p with
  | .prefixed op | .infixed op => op.reducesBefore precedence assoc
  | .group _ _ _ _ => false

/-- Whether the entry is an operator rather than an open group. -/
def isOperator : Pending → Bool
  | .group _ _ _ _ => false
  | _ => true

end Pending

/-- A piece of an expression. -/
inductive ExprPiece where
  /-- A value. -/
  | literal (v : Value)
  /-- A name. -/
  | identifier (name : String)
  /-- The symbol of an operator. -/
  | symbol (s : String)

/-- An expression read in part. Both stacks have their top in front. -/
structure ExprBuilder where
  /-- Finished operands. -/
  operands : List Expr
  /-- Operators and groups that wait. -/
  pending : List Pending
  /-- Whether an operand has to come next. -/
  wantsOperand : Bool

namespace ExprBuilder

/-- Nothing read. -/
def start : ExprBuilder := ⟨[], [], true⟩

/-- A step of a builder; when it fails, the builder stays as the step left it. -/
abbrev Step (α : Type) := ExceptT ExprError (StateM ExprBuilder) α

/-- Puts an operand on its stack. -/
def pushOperand (e : Expr) : Step Unit :=
  modify fun b => { b with operands := e :: b.operands }

/-- Takes the top operand. -/
def popOperand : Step Expr := do
  match (← get).operands with
  | [] => throw .incomplete
  | e :: rest =>
    modify fun b => { b with operands := rest }
    return e

/-- Puts an entry on the stack of what waits. -/
def pushPending (p : Pending) : Step Unit :=
  modify fun b => { b with pending := p :: b.pending }

/-- Says whether an operand has to come next. -/
def setWants (wants : Bool) : Step Unit := modify fun b => { b with wantsOperand := wants }

/-- Takes an operand that must be there where a literal or a name comes. -/
def acceptOperand (e : Expr) : Step Unit := do
  pushOperand e
  setWants false

/-- Applies an operator to the operands on the stack. -/
def apply : Pending → Step Unit
  | .prefixed op => do
    let operand ← popOperand
    if op.rightName && operand.name?.isNone then throw (.nameExpected op.symbol)
    pushOperand (.unary op operand)
  | .infixed op => do
    let right ← popOperand
    let left ← popOperand
    if (op.rightName && right.name?.isNone) || (op.leftName && left.name?.isNone) then
      throw (.nameExpected op.symbol)
    match op.operation, right with
    | .member, .identifier name => pushOperand (.member left name)
    | _, _ => pushOperand (.binary op left right)
  | .group op _ _ _ => throw (.unbalanced op.symbol)

/-- Takes entries off the stack and applies them, one by one, as many as there are in the list
of those that are due. -/
def applyDue : List Pending → Step Unit
  | [] => pure ()
  | p :: rest => do
    modify fun b => { b with pending := b.pending.tail }
    apply p
    applyDue rest

/-- Applies what binds before an operator of the given precedence that comes in. -/
def applyBefore (precedence : Nat) (assoc : Associativity) : Step Unit := do
  applyDue ((← get).pending.takeWhile (·.reducesBefore precedence assoc))

/-- Finishes the last item of the innermost group; `symbol` is what ends it. -/
def finishItem (t : OperatorTable) (symbol : String) : Step Unit := do
  applyDue ((← get).pending.takeWhile Pending.isOperator)
  let item ← popOperand
  match (← get).pending with
  | .group op target items base :: rest =>
    modify fun b => { b with pending := .group op target (items ++ [item]) base :: rest }
  | _ =>
    if (t.separator? symbol).isSome then throw (.unexpectedOperator symbol)
    else throw (.unbalanced symbol)

/-- The one item of a group. -/
def single (op : Operator) : List Expr → Step Expr
  | [e] => pure e
  | _ => throw (.invalidGroup op.symbol)

/-- The expression that a closed group forms. -/
def formGroup (op : Operator) (target : Option Expr) (items : List Expr) : Step Expr :=
  match op.operation, target with
  | .bracket, some target => do return .index target (← single op items)
  | .bracket, none => pure (.list items)
  | _, some target => pure (.invoke target items)
  | _, none => single op items

/-- Closes the innermost group. -/
def closeGroup : Step Unit := do
  match (← get).pending with
  | .group op target items _ :: rest =>
    modify fun b => { b with pending := rest }
    acceptOperand (← formGroup op target items)
  | _ :: rest =>
    modify fun b => { b with pending := rest }
    throw .incomplete
  | [] => throw .incomplete

/-- The error for a symbol that has no reading here. -/
def misplaced (t : OperatorTable) (symbol : String) : ExprError :=
  if t.readsAsOperand symbol || t.readsAsOperator symbol then .unexpectedOperator symbol
  else .unknownOperator symbol

/-- Takes a symbol where an operand is expected: a prefix operator, the start of a plain group,
or the end of a group that has just opened. -/
def pushBeforeOperand (t : OperatorTable) (symbol : String) : Step Unit := do
  match t.prefixed? symbol with
  | some op => pushPending (.prefixed op)
  | none =>
    match t.opened? symbol with
    | some op => pushPending (.group op none [] (← get).operands.length)
    | none =>
      let b ← get
      match t.closed? symbol, b.pending with
      | some op, .group opener _ items base :: _ =>
        if opener = op ∧ items.isEmpty ∧ base = b.operands.length then closeGroup
        else throw (misplaced t symbol)
      | _, _ => throw (misplaced t symbol)

/-- Opens a group that applies to the operand before it. -/
def openOn (op : Operator) : Step Unit := do
  applyBefore op.precedence .left
  let target ← popOperand
  if op.operation ≠ .bracket && !target.isInvocable then throw .notInvocable
  pushPending (.group op (some target) [] (← get).operands.length)
  setWants true

/-- Closes the group that a symbol ends. -/
def closeWith (t : OperatorTable) (op : Operator) (symbol : String) : Step Unit := do
  finishItem t symbol
  match (← get).pending with
  | .group opener _ _ _ :: _ =>
    if opener = op then closeGroup else throw (.unbalanced symbol)
  | _ => throw (.unbalanced symbol)

/-- Takes a symbol where an operator is expected: an infix operator, the start of a group that
applies to the operand before it, a separator, or the end of a group. -/
def pushAfterOperand (t : OperatorTable) (symbol : String) : Step Unit := do
  match t.infixed? symbol with
  | some op =>
    match op.shape with
    | .infixed assoc =>
      applyBefore op.precedence assoc
      pushPending (.infixed op)
      setWants true
    | _ => throw (.unexpectedOperator symbol)
  | none =>
    match t.opened? symbol with
    | some op => openOn op
    | none =>
      if (t.separator? symbol).isSome then
        finishItem t symbol
        setWants true
      else
        match t.closed? symbol with
        | some op => closeWith t op symbol
        | none => throw (misplaced t symbol)

/-- Takes one piece. -/
def push (t : OperatorTable) (piece : ExprPiece) : Step Unit := do
  let wants := (← get).wantsOperand
  match piece with
  | .literal v => if wants then acceptOperand (.literal v) else throw (.unexpectedLiteral v.literal)
  | .identifier name =>
    if wants then acceptOperand (.identifier name) else throw (.unexpectedIdentifier name)
  | .symbol s => if wants then pushBeforeOperand t s else pushAfterOperand t s

/-- Applies everything that waits, and gives the expression. -/
def close : Step Expr := do
  if (← get).wantsOperand then throw .incomplete
  applyDue (← get).pending
  let e ← popOperand
  if (← get).operands.isEmpty then pure e else throw .incomplete

/-- The expression of a builder that has taken all pieces. -/
def finish (b : ExprBuilder) : Except ExprError Expr := (close.run.run b).1

/-- The result of taking one piece, and the builder afterwards. -/
def take (t : OperatorTable) (b : ExprBuilder) (piece : ExprPiece) :
    Except ExprError Unit × ExprBuilder :=
  (push t piece).run.run b

/-- Takes all pieces in turn and finishes. -/
def build (t : OperatorTable) (pieces : List ExprPiece) : Except ExprError Expr :=
  ((do pieces.forM (push t); close : Step Expr).run.run start).1

end ExprBuilder

end TagTemplate
