import TagTemplate.Proofs.Expr.Step
import TagTemplate.Proofs.Operator.Readings

/-!
# Phrases

A phrase is an expression as it is written. It keeps what the tree of an expression leaves out:
plain groups around single expressions, and the symbols of members, groups and separators. From a
phrase follow the tree, the written pieces, and whether the tree respects precedence. The yield
of a tree is defined on the tree alone; the pieces of a phrase without its plain groups are a
yield of its tree.
-/

namespace TagTemplate

mutual

/-- An expression as it is written. -/
inductive Phrase where
  /-- A value. -/
  | literal (v : Value)
  /-- A name. -/
  | identifier (name : String)
  /-- A prefix operator and its operand. -/
  | prefixed (op : Operator) (operand : Phrase)
  /-- An infix operator between its operands. -/
  | infixed (op : Operator) (left right : Phrase)
  /-- A plain group around a single expression. -/
  | grouped (op : Operator) (inner : Phrase)
  /-- A list without items. -/
  | emptyList (op : Operator)
  /-- A list of items. -/
  | listed (op : Operator) (items : PhraseRow)
  /-- An invocation without arguments. -/
  | emptyCall (op : Operator) (target : Phrase)
  /-- An invocation with arguments. -/
  | called (op : Operator) (target : Phrase) (args : PhraseRow)
  /-- An item at a position. -/
  | indexed (op : Operator) (target key : Phrase)

/-- Items with separators between them. -/
inductive PhraseRow where
  /-- One item. -/
  | one (item : Phrase)
  /-- Items, a separator and one more item. -/
  | more (before : PhraseRow) (separator : String) (item : Phrase)

end

/-- A written piece, and whether it is a symbol of a plain group around a single expression. -/
structure WrittenPiece where
  /-- The piece. -/
  piece : ExprPiece
  /-- Whether it opens or closes such a group. -/
  grouping : Bool

namespace WrittenPiece

/-- A symbol that belongs to the tree. -/
def bare (symbol : String) : WrittenPiece := ⟨.symbol symbol, false⟩

/-- The pieces that are written. -/
def pieces (written : List WrittenPiece) : List ExprPiece := written.map piece

/-- The pieces that are left when the symbols of plain groups are erased. -/
def yield (written : List WrittenPiece) : List ExprPiece :=
  (written.filter fun w => !w.grouping).map piece

@[simp] theorem pieces_append (ws vs : List WrittenPiece) :
    pieces (ws ++ vs) = pieces ws ++ pieces vs := List.map_append

@[simp] theorem yield_nil : yield [] = [] := rfl

@[simp] theorem yield_append (ws vs : List WrittenPiece) :
    yield (ws ++ vs) = yield ws ++ yield vs := by
  simp only [yield, List.filter_append, List.map_append]

@[simp] theorem yield_bare (symbol : String) (ws : List WrittenPiece) :
    yield (bare symbol :: ws) = .symbol symbol :: yield ws := rfl

@[simp] theorem yield_grouping (piece : ExprPiece) (ws : List WrittenPiece) :
    yield (⟨piece, true⟩ :: ws) = yield ws := rfl

end WrittenPiece

namespace OperatorTable

/-- The table reads both symbols of a group operator as that operator. -/
def HasGroup (t : OperatorTable) (op : Operator) : Prop :=
  t.opened? op.symbol = some op ∧ t.closed? op.closing = some op

end OperatorTable

mutual

/-- The in-order yield of a tree in a table: the pieces of its nodes from left to right. Where a
node does not say by which symbol it was written, it is that of an operator of the table with the
operation of the node, or of a separator. -/
inductive Expr.Yields (t : OperatorTable) : Expr → List ExprPiece → Prop
  /-- A value yields itself. -/
  | literal {v : Value} : Expr.Yields t (.literal v) [.literal v]
  /-- A name yields itself. -/
  | identifier {name : String} : Expr.Yields t (.identifier name) [.identifier name]
  /-- The operator comes before its operand. -/
  | unary {op : Operator} {e : Expr} {ps : List ExprPiece} (h : Expr.Yields t e ps) :
    Expr.Yields t (.unary op e) (.symbol op.symbol :: ps)
  /-- The operator comes between its operands. -/
  | binary {op : Operator} {l r : Expr} {ps qs : List ExprPiece} (hl : Expr.Yields t l ps)
      (hr : Expr.Yields t r qs) :
    Expr.Yields t (.binary op l r) (ps ++ .symbol op.symbol :: qs)
  /-- A member's name comes last. -/
  | member {op : Operator} {target : Expr} {name : String} {ps : List ExprPiece}
      (ht : t.infixed? op.symbol = some op) (ho : op.operation = .member)
      (h : Expr.Yields t target ps) :
    Expr.Yields t (.member target name) (ps ++ [.symbol op.symbol, .identifier name])
  /-- A list stands between the symbols of a bracket. -/
  | list {op : Operator} {items : List Expr} {ps : List ExprPiece} (ht : t.HasGroup op)
      (ho : op.operation = .bracket) (h : Expr.ItemsYield t items ps) :
    Expr.Yields t (.list items) (.symbol op.symbol :: ps ++ [.symbol op.closing])
  /-- Arguments stand between the symbols of a group, after what is invoked. -/
  | invoke {op : Operator} {target : Expr} {args : List Expr} {ps qs : List ExprPiece}
      (ht : t.HasGroup op) (ho : op.operation ≠ .bracket) (h : Expr.Yields t target ps)
      (ha : Expr.ItemsYield t args qs) :
    Expr.Yields t (.invoke target args)
      (ps ++ .symbol op.symbol :: qs ++ [.symbol op.closing])
  /-- A key stands between the symbols of a bracket, after what is indexed. -/
  | index {op : Operator} {target key : Expr} {ps qs : List ExprPiece} (ht : t.HasGroup op)
      (ho : op.operation = .bracket) (h : Expr.Yields t target ps) (hk : Expr.Yields t key qs) :
    Expr.Yields t (.index target key) (ps ++ .symbol op.symbol :: qs ++ [.symbol op.closing])

/-- The in-order yield of items: their yields with separators between them. -/
inductive Expr.ItemsYield (t : OperatorTable) : List Expr → List ExprPiece → Prop
  /-- No items yield nothing. -/
  | none : Expr.ItemsYield t [] []
  /-- One item yields what it yields. -/
  | one {e : Expr} {ps : List ExprPiece} (h : Expr.Yields t e ps) : Expr.ItemsYield t [e] ps
  /-- A separator comes before each further item. -/
  | more {es : List Expr} {e : Expr} {ps qs : List ExprPiece} {separator : String}
      (hn : es ≠ []) (hs : t.separator? separator ≠ none) (hi : Expr.ItemsYield t es ps)
      (h : Expr.Yields t e qs) :
    Expr.ItemsYield t (es ++ [e]) (ps ++ .symbol separator :: qs)

end

namespace Phrase

mutual

/-- The tree of a phrase. -/
def expr : Phrase → Expr
  | .literal v => .literal v
  | .identifier name => .identifier name
  | .prefixed op operand => .unary op operand.expr
  | .infixed op left right => .joined op left.expr right.expr
  | .grouped _ inner => inner.expr
  | .emptyList _ => .list []
  | .listed _ items => .list (rowExprs items)
  | .emptyCall _ target => .invoke target.expr []
  | .called _ target args => .invoke target.expr (rowExprs args)
  | .indexed _ target key => .index target.expr key.expr

/-- The trees of items. -/
def rowExprs : PhraseRow → List Expr
  | .one item => [item.expr]
  | .more before _ item => rowExprs before ++ [item.expr]

end

mutual

/-- The pieces of a phrase as they are written, with those of plain groups marked. -/
def written : Phrase → List WrittenPiece
  | .literal v => [⟨.literal v, false⟩]
  | .identifier name => [⟨.identifier name, false⟩]
  | .prefixed op operand => .bare op.symbol :: operand.written
  | .infixed op left right => left.written ++ .bare op.symbol :: right.written
  | .grouped op inner =>
    ⟨.symbol op.symbol, true⟩ :: inner.written ++ [⟨.symbol op.closing, true⟩]
  | .emptyList op => [.bare op.symbol, .bare op.closing]
  | .listed op items => .bare op.symbol :: rowWritten items ++ [.bare op.closing]
  | .emptyCall op target => target.written ++ [.bare op.symbol, .bare op.closing]
  | .called op target args =>
    target.written ++ .bare op.symbol :: rowWritten args ++ [.bare op.closing]
  | .indexed op target key =>
    target.written ++ .bare op.symbol :: key.written ++ [.bare op.closing]

/-- The pieces of items and separators as they are written. -/
def rowWritten : PhraseRow → List WrittenPiece
  | .one item => item.written
  | .more before separator item => rowWritten before ++ .bare separator :: item.written

end

mutual

/-- Every symbol is one that the table reads as the operator at its place, and operands are such
as the operators ask for. -/
def ReadBy (t : OperatorTable) : Phrase → Prop
  | .literal _ | .identifier _ => True
  | .prefixed op operand =>
    t.prefixed? op.symbol = some op ∧ (op.rightName = true → operand.expr.name? ≠ none) ∧
      operand.ReadBy t
  | .infixed op left right =>
    t.infixed? op.symbol = some op ∧ (op.rightName = true → right.expr.name? ≠ none) ∧
      (op.leftName = true → left.expr.name? ≠ none) ∧ left.ReadBy t ∧ right.ReadBy t
  | .grouped op inner => t.HasGroup op ∧ op.operation ≠ .bracket ∧ inner.ReadBy t
  | .emptyList op => t.HasGroup op ∧ op.operation = .bracket
  | .listed op items => t.HasGroup op ∧ op.operation = .bracket ∧ RowReadBy t items
  | .emptyCall op target =>
    t.HasGroup op ∧ op.operation ≠ .bracket ∧ target.expr.isInvocable = true ∧ target.ReadBy t
  | .called op target args =>
    t.HasGroup op ∧ op.operation ≠ .bracket ∧ target.expr.isInvocable = true ∧
      target.ReadBy t ∧ RowReadBy t args
  | .indexed op target key =>
    t.HasGroup op ∧ op.operation = .bracket ∧ target.ReadBy t ∧ key.ReadBy t

/-- Every symbol among the items is one that the table reads as what it stands for. -/
def RowReadBy (t : OperatorTable) : PhraseRow → Prop
  | .one item => item.ReadBy t
  | .more before separator item =>
    t.separator? separator ≠ none ∧ RowReadBy t before ∧ item.ReadBy t

end

/-- The operator of a prefix or infix node that no group encloses. -/
def head? : Phrase → Option Operator
  | .prefixed op _ | .infixed op _ _ => some op
  | _ => none

/-- The operator of an infix node that no group encloses. -/
def infixHead? : Phrase → Option Operator
  | .infixed op _ _ => some op
  | _ => none

/-- The phrase may be the left operand of an infix operator: its own operator, unless a group
encloses it, goes first. -/
def FitsLeft (p : Phrase) (next : Operator) : Prop :=
  ∀ op, p.head? = some op → op.appliedBefore next = true

/-- The phrase may be the right or only operand of an operator: that operator does not go before
the infix operator of the phrase, unless a group encloses it. -/
def FitsRight (p : Phrase) (first : Operator) : Prop :=
  ∀ op, p.infixHead? = some op → first.appliedBefore op = false

mutual

/-- At every operator of the phrase the operands are such that precedence puts them there. -/
def Respects : Phrase → Prop
  | .literal _ | .identifier _ | .emptyList _ => True
  | .prefixed op operand => operand.FitsRight op ∧ operand.Respects
  | .infixed op left right =>
    left.FitsLeft op ∧ right.FitsRight op ∧ left.Respects ∧ right.Respects
  | .grouped _ inner => inner.Respects
  | .listed _ items => RowRespects items
  | .emptyCall _ target => target.Respects
  | .called _ target args => target.Respects ∧ RowRespects args
  | .indexed _ target key => target.Respects ∧ key.Respects

/-- The items respect precedence. -/
def RowRespects : PhraseRow → Prop
  | .one item => item.Respects
  | .more before _ item => RowRespects before ∧ item.Respects

end

/-- Items are not empty. -/
theorem rowExprs_ne_nil (row : PhraseRow) : rowExprs row ≠ [] := by
  cases row <;> simp [rowExprs]

mutual

/-- What is written, without the symbols of plain groups, is a yield of the tree. -/
theorem yields {t : OperatorTable} :
    ∀ p : Phrase, p.ReadBy t → p.expr.Yields t (WrittenPiece.yield p.written)
  | .literal _, _ => .literal
  | .identifier _, _ => .identifier
  | .prefixed op operand, h => by
    simp only [ReadBy] at h
    simp only [expr, written, WrittenPiece.yield_bare]
    exact .unary (yields operand h.2.2)
  | .infixed op left right, h => by
    simp only [ReadBy] at h
    have hl := yields left h.2.2.2.1
    have hr := yields right h.2.2.2.2
    simp only [expr, written, WrittenPiece.yield_append, WrittenPiece.yield_bare]
    unfold Expr.joined
    split
    · next name ho hn =>
      rw [hn] at hr
      cases hy : WrittenPiece.yield right.written with
      | nil => rw [hy] at hr; cases hr
      | cons q qs =>
        rw [hy] at hr
        cases hr
        exact .member h.1 ho hl
    · exact .binary hl hr
  | .grouped op inner, h => by
    simp only [ReadBy] at h
    simpa only [expr, written, List.cons_append, WrittenPiece.yield_append,
      WrittenPiece.yield_grouping, WrittenPiece.yield_nil, List.append_nil]
      using yields inner h.2.2
  | .emptyList op, h => by
    simp only [ReadBy] at h
    exact .list h.1 h.2 .none
  | .listed op items, h => by
    simp only [ReadBy] at h
    simpa only [expr, written, List.cons_append, WrittenPiece.yield_append,
      WrittenPiece.yield_bare, WrittenPiece.yield_nil]
      using Expr.Yields.list h.1 h.2.1 (rowYields items h.2.2)
  | .emptyCall op target, h => by
    simp only [ReadBy] at h
    simpa only [expr, written, WrittenPiece.yield_append, WrittenPiece.yield_bare,
      WrittenPiece.yield_nil, List.append_assoc, List.cons_append, List.nil_append]
      using Expr.Yields.invoke h.1 h.2.1 (yields target h.2.2.2) .none
  | .called op target args, h => by
    simp only [ReadBy] at h
    simpa only [expr, written, WrittenPiece.yield_append, WrittenPiece.yield_bare,
      WrittenPiece.yield_nil, List.append_assoc, List.cons_append, List.nil_append]
      using Expr.Yields.invoke h.1 h.2.1 (yields target h.2.2.2.1) (rowYields args h.2.2.2.2)
  | .indexed op target key, h => by
    simp only [ReadBy] at h
    simpa only [expr, written, WrittenPiece.yield_append, WrittenPiece.yield_bare,
      WrittenPiece.yield_nil, List.append_assoc, List.cons_append, List.nil_append]
      using Expr.Yields.index h.1 h.2.1 (yields target h.2.2.1) (yields key h.2.2.2)

/-- What is written of items, without the symbols of plain groups, is a yield of their trees. -/
theorem rowYields {t : OperatorTable} :
    ∀ row : PhraseRow, RowReadBy t row →
      Expr.ItemsYield t (rowExprs row) (WrittenPiece.yield (rowWritten row))
  | .one item, h => by
    simp only [RowReadBy] at h
    exact .one (yields item h)
  | .more before separator item, h => by
    simp only [RowReadBy] at h
    simp only [rowExprs, rowWritten, WrittenPiece.yield_append, WrittenPiece.yield_bare]
    exact .more (rowExprs_ne_nil before) h.1 (rowYields before h.2.1) (yields item h.2.2)

end

end Phrase

end TagTemplate
