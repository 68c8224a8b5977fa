import TagTemplate.Coercion
import TagTemplate.Collation

/-!
# Operators

An operator has a symbol, a precedence, of which lower ones bind tighter, a shape that tells
where its operands stand, and an operation. The operations are a closed set; which symbols they
have is up to the dialect. Operations on values are total: every pair of values has a result.
-/

namespace TagTemplate

/-- Which of two infix operators of one precedence goes first. -/
inductive Associativity where
  /-- The left one. -/
  | left
  /-- The right one. -/
  | right
  deriving DecidableEq, Repr

/-- Where the operands of an operator stand. -/
inductive OperatorShape where
  /-- Before its one operand. -/
  | prefixed
  /-- Between its operands. -/
  | infixed (assoc : Associativity)
  /-- Around any number of items, up to the symbol `close`. Where an operand is expected it is
  a plain group; after an operand it applies to it. -/
  | group (close : String)
  /-- Between the items of a group. -/
  | separator
  deriving DecidableEq, Repr

/-- What an operator does. -/
inductive Operation where
  /-- The number with the other sign. -/
  | negate
  /-- The number. -/
  | identity
  /-- The opposite truth value. -/
  | not
  /-- The bits of the integer, each flipped. -/
  | bitNot
  /-- Whether a name resolves. -/
  | defined
  /-- Product. -/
  | multiply
  /-- Quotient. -/
  | divide
  /-- Remainder. -/
  | modulo
  /-- Sum. -/
  | add
  /-- Difference. -/
  | subtract
  /-- Bits moved towards the sign. -/
  | shiftLeft
  /-- Bits moved away from the sign, which is repeated. -/
  | shiftRight
  /-- The integers from one bound to the other. -/
  | range
  /-- Comes before. -/
  | less
  /-- Comes before or is equal. -/
  | lessOrEqual
  /-- Comes after. -/
  | greater
  /-- Comes after or is equal. -/
  | greaterOrEqual
  /-- Is equal. -/
  | equal
  /-- Is not equal. -/
  | notEqual
  /-- Bits that both have. -/
  | bitAnd
  /-- Bits that one of the two has. -/
  | bitXor
  /-- Bits that either has. -/
  | bitOr
  /-- Both are true. -/
  | and
  /-- Either is true. -/
  | or
  /-- A member of an object. -/
  | member
  /-- Grouping, and invocation after an operand. -/
  | parenthesis
  /-- A list, and indexing after an operand. -/
  | bracket
  /-- Separation of items. -/
  | comma
  deriving DecidableEq, Repr

/-- An operator. -/
structure Operator where
  /-- How it is written; for a group, how it opens. -/
  symbol : String
  /-- How tightly it binds; lower is tighter. -/
  precedence : Nat
  /-- Where its operands stand. -/
  shape : OperatorShape
  /-- What it does. -/
  operation : Operation
  /-- Whether its left operand must be a name. -/
  leftName : Bool := false
  /-- Whether its right or only operand must be a name. -/
  rightName : Bool := false
  deriving DecidableEq, Repr

namespace Operator

/-- The precedence that separators are given: looser than all others. -/
def loosest : Nat := Nat.pow 2 32 - 1

/-- A prefix operator. -/
def prefixOp (symbol : String) (precedence : Nat) (operation : Operation) : Operator :=
  { symbol, precedence, shape := .prefixed, operation }

/-- An infix operator. -/
def infixOp (symbol : String) (precedence : Nat) (assoc : Associativity)
    (operation : Operation) : Operator :=
  { symbol, precedence, shape := .infixed assoc, operation }

/-- A group operator. -/
def groupOp (symbol close : String) (precedence : Nat) (operation : Operation) : Operator :=
  { symbol, precedence, shape := .group close, operation }

/-- An item separator. -/
def separatorOp (symbol : String) (operation : Operation) : Operator :=
  { symbol, precedence := loosest, shape := .separator, operation }

/-- The operator with a right or only operand that must be a name. -/
def withRightName (op : Operator) : Operator := { op with rightName := true }

/-- The operator with a left operand that must be a name. -/
def withLeftName (op : Operator) : Operator := { op with leftName := true }

/-- The symbol that closes a group. -/
def close? (op : Operator) : Option String :=
  match op.shape with
  | .group close => some close
  | _ => none

/-- Whether the operator, while it waits for its last operand, takes what stands before an
operator of the given precedence and associativity. -/
def reducesBefore (op : Operator) (precedence : Nat) (assoc : Associativity) : Bool :=
  match op.shape with
  | .prefixed | .infixed _ =>
    decide (op.precedence < precedence) ||
      (decide (op.precedence = precedence) && decide (assoc = .left))
  | .group _ | .separator => false

end Operator

namespace Value

/-- Equality, by the kind of the left operand: as numbers, truth values or texts, and by
identity for everything else. -/
def equalTo (c : Coercion) (collation : Collation) (l r : Value) : Bool :=
  match l with
  | .number x => x.equals r.toNumber
  | .bool b => b == r.toBool
  | .text s => collation.order s (c.text r) == .eq
  | _ => l.same r

/-- Order, by the kind of the left operand; none when the operands are unordered. -/
def order (c : Coercion) (collation : Collation) (l r : Value) : Option Ordering :=
  match l with
  | .number x => x.order r.toNumber
  | .bool b => some (compare b.toNat r.toBool.toNat)
  | .text s => some (collation.order s (c.text r))
  | _ => none

/-- A number cut down to an integer of 64 bits; what lies outside moves to the nearer end. -/
def rangeBound (x : Number) : Int64 :=
  Int64.ofInt (x.trunc.saturated (-(Int.pow 2 63)) (Int.pow 2 63 - 1))

/-- The range between two numbers, undefined when it would descend or has no finite bounds. -/
def rangeBetween (low high : Number) : Value :=
  match low, high, low.order high with
  | .finite _ _, .finite _ _, some .gt => .undefined
  | .finite _ _, .finite _ _, _ => .range (rangeBound low) (rangeBound high)
  | _, _, _ => .undefined

/-- The number of a 32-bit integer. -/
def ofInt32 (i : Int32) : Value := ofInt i.toInt

end Value

namespace Operation

/-- The result that the left operand decides alone, if it does. -/
def shortCircuit (op : Operation) (l : Value) : Option Value :=
  match op with
  | .and => if l.toBool then none else some (.bool false)
  | .or => if l.toBool then some (.bool true) else none
  | _ => none

/-- The result for one operand; undefined for operations that have two, or that need more than
values. -/
def unary (op : Operation) (v : Value) : Value :=
  match op with
  | .negate => .number v.toNumber.neg
  | .identity => .number v.toNumber
  | .not => .bool !v.toBool
  | .bitNot => .ofInt32 (~~~v.toInt32)
  | _ => .undefined

/-- The result for two operands; undefined for operations that have one, or that need more than
values. -/
def binary (op : Operation) (c : Coercion) (collation : Collation) (l r : Value) : Value :=
  match op with
  | .add => .number (l.toNumber.add r.toNumber)
  | .subtract => .number (l.toNumber.sub r.toNumber)
  | .multiply => .number (l.toNumber.mul r.toNumber)
  | .divide => .number (l.toNumber.div r.toNumber)
  | .modulo => .number (l.toNumber.rem r.toNumber)
  | .bitAnd => .ofInt32 (l.toInt32 &&& r.toInt32)
  | .bitOr => .ofInt32 (l.toInt32 ||| r.toInt32)
  | .bitXor => .ofInt32 (l.toInt32 ^^^ r.toInt32)
  | .shiftLeft => .ofInt32 (l.toInt32 <<< r.toInt32)
  | .shiftRight => .ofInt32 (l.toInt32 >>> r.toInt32)
  | .and | .or => .bool r.toBool
  | .equal => .bool (l.equalTo c collation r)
  | .notEqual => .bool !(l.equalTo c collation r)
  | .less => .bool (l.order c collation r == some .lt)
  | .lessOrEqual =>
    .bool (match l.order c collation r with
      | some .lt | some .eq => true
      | _ => false)
  | .greater => .bool (l.order c collation r == some .gt)
  | .greaterOrEqual =>
    .bool (match l.order c collation r with
      | some .gt | some .eq => true
      | _ => false)
  | .range => .rangeBetween l.toNumber r.toNumber
  | _ => .undefined

end Operation

end TagTemplate
