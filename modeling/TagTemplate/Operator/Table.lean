import TagTemplate.Operator

/-!
# Operator tables

The operators of a dialect, in the order in which they were registered. A symbol has at most one
reading where an operand is expected and at most one where an operator is: registration refuses
an operator that would add a second one.
-/

namespace TagTemplate

/-- The classes in which a symbol can be taken. -/
inductive OperatorClass where
  /-- Before an operand. -/
  | beforeOperand
  /-- After an operand. -/
  | afterOperand
  /-- Around items. -/
  | around
  deriving DecidableEq, Repr

/-- The name of a class in messages. -/
def OperatorClass.name : OperatorClass → String
  | .beforeOperand => "prefix"
  | .afterOperand => "infix"
  | .around => "group"

/-- A symbol that is taken already, and the class of the operator that was refused. -/
structure SymbolClash where
  /-- The symbol. -/
  symbol : String
  /-- The class of the refused operator. -/
  wanted : OperatorClass
  deriving DecidableEq, Repr

/-- Registered operators, in order. -/
structure OperatorTable where
  /-- The operators. -/
  operators : List Operator
  deriving DecidableEq, Repr

namespace OperatorTable

/-- No operators. -/
def empty : OperatorTable := ⟨[]⟩

/-- The prefix operator that a symbol writes. -/
def prefixed? (t : OperatorTable) (symbol : String) : Option Operator :=
  t.operators.find? fun op => op.symbol = symbol && decide (op.shape = .prefixed)

/-- The infix operator that a symbol writes. -/
def infixed? (t : OperatorTable) (symbol : String) : Option Operator :=
  t.operators.find? fun op =>
    match op.shape with
    | .infixed _ => op.symbol = symbol
    | _ => false

/-- The group operator that a symbol opens. -/
def opened? (t : OperatorTable) (symbol : String) : Option Operator :=
  t.operators.find? fun op =>
    match op.shape with
    | .group _ => op.symbol = symbol
    | _ => false

/-- The group operator that a symbol closes. -/
def closed? (t : OperatorTable) (symbol : String) : Option Operator :=
  t.operators.find? fun op =>
    match op.shape with
    | .group close => close = symbol
    | _ => false

/-- The separator that a symbol writes. -/
def separator? (t : OperatorTable) (symbol : String) : Option Operator :=
  t.operators.find? fun op => op.symbol = symbol && decide (op.shape = .separator)

/-- Whether a symbol has a reading where an operand is expected. -/
def readsAsOperand (t : OperatorTable) (symbol : String) : Bool :=
  (t.prefixed? symbol).isSome || (t.opened? symbol).isSome || (t.closed? symbol).isSome

/-- Whether a symbol has a reading where an operator is expected. -/
def readsAsOperator (t : OperatorTable) (symbol : String) : Bool :=
  (t.infixed? symbol).isSome || (t.opened? symbol).isSome || (t.closed? symbol).isSome ||
    (t.separator? symbol).isSome

/-- The symbol for which an operator cannot be registered, if there is one. -/
def clash? (t : OperatorTable) (op : Operator) : Option SymbolClash :=
  match op.shape with
  | .prefixed =>
    if t.readsAsOperand op.symbol then some ⟨op.symbol, .beforeOperand⟩ else none
  | .infixed _ | .separator =>
    if t.readsAsOperator op.symbol then some ⟨op.symbol, .afterOperand⟩ else none
  | .group close =>
    let taken (symbol : String) : Bool := t.readsAsOperand symbol || t.readsAsOperator symbol
    if taken op.symbol then some ⟨op.symbol, .around⟩
    else if taken close then some ⟨close, .around⟩
    else none

/-- Registers an operator, unless one of its symbols is taken. -/
def register (t : OperatorTable) (op : Operator) : Except SymbolClash OperatorTable :=
  match t.clash? op with
  | some clash => .error clash
  | none => .ok ⟨t.operators ++ [op]⟩

/-- The symbols of an operator. -/
def symbolsOf (op : Operator) : List String :=
  match op.shape with
  | .group close => [op.symbol, close]
  | _ => [op.symbol]

/-- Puts a symbol into an ascending list that has no duplicates. -/
def insertSymbol (symbol : String) : List String → List String
  | [] => [symbol]
  | s :: rest =>
    if symbol < s then symbol :: s :: rest
    else if symbol = s then s :: rest
    else s :: insertSymbol symbol rest

/-- Every symbol of the table, those that close groups included, ascending and once each. -/
def symbols (t : OperatorTable) : List String :=
  (t.operators.flatMap symbolsOf).foldr insertSymbol []

/-- The standard operators. -/
def standardOperators : List Operator :=
  [ (Operator.infixOp "." 0 .left .member).withRightName,
    Operator.groupOp "(" ")" 0 .parenthesis,
    Operator.groupOp "[" "]" 0 .bracket,
    Operator.separatorOp "," .comma,
    Operator.prefixOp "-" 1 .negate,
    Operator.prefixOp "+" 1 .identity,
    Operator.prefixOp "!" 1 .not,
    Operator.prefixOp "~" 1 .bitNot,
    (Operator.prefixOp "?" 1 .defined).withRightName,
    Operator.infixOp "*" 2 .left .multiply,
    Operator.infixOp "/" 2 .left .divide,
    Operator.infixOp "%" 2 .left .modulo,
    Operator.infixOp "+" 3 .left .add,
    Operator.infixOp "-" 3 .left .subtract,
    Operator.infixOp "<<" 4 .left .shiftLeft,
    Operator.infixOp ">>" 4 .left .shiftRight,
    Operator.infixOp ".." 5 .left .range,
    Operator.infixOp "<" 6 .left .less,
    Operator.infixOp "<=" 6 .left .lessOrEqual,
    Operator.infixOp ">" 6 .left .greater,
    Operator.infixOp ">=" 6 .left .greaterOrEqual,
    Operator.infixOp "==" 7 .left .equal,
    Operator.infixOp "!=" 7 .left .notEqual,
    Operator.infixOp "&" 8 .left .bitAnd,
    Operator.infixOp "^" 9 .left .bitXor,
    Operator.infixOp "|" 10 .left .bitOr,
    Operator.infixOp "&&" 11 .left .and,
    Operator.infixOp "||" 12 .left .or ]

/-- The table of the standard operators. -/
def standard : OperatorTable := ⟨standardOperators⟩

end OperatorTable

end TagTemplate
