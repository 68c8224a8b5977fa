import TagTemplate.Proofs.Expr.Taking

/-!
# Spellings

The spelling of an expression writes it in the standard operators with a plain group around every
part that is more than a value or a name. Every expression over the standard operators has one, and
it is read back as that expression. The proof follows a part through the builder: where an operand
is expected and no operator waits on top, the pieces of an expression leave its last operator
waiting and what it applies to on the stack of operands; whatever ends the expression then applies
that operator.
-/

namespace TagTemplate

namespace OperatorTable

/-- The standard operator between an object and the name of a member. -/
def dot : Operator := (Operator.infixOp "." 0 .left .member).withRightName

/-- The standard operator of plain groups and invocations. -/
def parenthesis : Operator := Operator.groupOp "(" ")" 0 .parenthesis

/-- The standard operator of lists and positions. -/
def bracket : Operator := Operator.groupOp "[" "]" 0 .bracket

theorem infixed?_dot : standard.infixed? "." = some dot := rfl

theorem opened?_parenthesis : standard.opened? "(" = some parenthesis := rfl

theorem closed?_parenthesis : standard.closed? ")" = some parenthesis := rfl

theorem opened?_bracket : standard.opened? "[" = some bracket := rfl

theorem closed?_bracket : standard.closed? "]" = some bracket := rfl

/-- A standard prefix operator that asks for a name is the one that asks whether it resolves. -/
theorem symbol_of_rightName : ∀ op ∈ standardOperators, op.shape = .prefixed →
    op.rightName = true → op.symbol = "?" := by
  decide

/-- Standard infix operators take any operands, but for that of members. -/
theorem operands_of_infixed : ∀ op ∈ standardOperators, op.assoc? ≠ none → op.symbol ≠ "." →
    op.rightName = false ∧ op.leftName = false ∧ op.operation ≠ .member := by
  decide

end OperatorTable

namespace Expr

open OperatorTable

/-- Whether the expression is a value or a name. -/
def isSimple : Expr → Bool
  | .literal _ | .identifier _ => true
  | _ => false

/-- What is written of a part of an expression that has the given spelling: a plain group encloses
it unless the part is a value or a name. -/
def enclose (e : Expr) (spelling : List ExprPiece) : List ExprPiece :=
  if e.isSimple then spelling else .symbol "(" :: spelling ++ [.symbol ")"]

mutual

/-- The pieces that write an expression with each of its parts enclosed, but for what an invocation
invokes. -/
def spelling : Expr → List ExprPiece
  | .literal v => [.literal v]
  | .identifier name => [.identifier name]
  | .unary op operand => .symbol op.symbol :: operand.enclose operand.spelling
  | .binary op left right =>
    left.enclose left.spelling ++ .symbol op.symbol :: right.enclose right.spelling
  | .member target name => target.enclose target.spelling ++ [.symbol ".", .identifier name]
  | .list items =>
    .symbol "[" :: [.symbol ","].intercalate (itemSpellings items) ++ [.symbol "]"]
  | .invoke target args =>
    target.spelling ++
      .symbol "(" :: [.symbol ","].intercalate (itemSpellings args) ++ [.symbol ")"]
  | .index target key =>
    target.enclose target.spelling ++
      .symbol "[" :: key.enclose key.spelling ++ [.symbol "]"]

/-- What is written of each item. -/
def itemSpellings : List Expr → List (List ExprPiece)
  | [] => []
  | e :: es => e.enclose e.spelling :: itemSpellings es

end

mutual

/-- The expression is over the standard operators: a name stands where `?` asks for one, a member is
no infix node, and only names and members are invoked. -/
def IsStandard : Expr → Prop
  | .literal _ | .identifier _ => True
  | .unary op operand =>
    op ∈ standardOperators ∧ op.shape = .prefixed ∧ (op.symbol = "?" → operand.name? ≠ none) ∧
      operand.IsStandard
  | .binary op left right =>
    op ∈ standardOperators ∧ op.assoc? ≠ none ∧ op.symbol ≠ "." ∧ left.IsStandard ∧
      right.IsStandard
  | .member target _ => target.IsStandard
  | .list items => AllStandard items
  | .invoke target args => target.isInvocable = true ∧ target.IsStandard ∧ AllStandard args
  | .index target key => target.IsStandard ∧ key.IsStandard

/-- Every item is over the standard operators. -/
def AllStandard : List Expr → Prop
  | [] => True
  | e :: es => e.IsStandard ∧ AllStandard es

end

/-- The operands on the stack when all of an expression but its last operator has been applied. -/
def parts : Expr → List Expr
  | .unary _ operand => [operand]
  | .binary _ left right => [right, left]
  | .member target name => [.identifier name, target]
  | e => [e]

/-- The operator that then waits. -/
def waiting : Expr → List Pending
  | .unary op _ => [.prefixed op]
  | .binary op _ _ => [.infixed op]
  | .member _ _ => [.infixed dot]
  | _ => []

end Expr

namespace Pending

/-- No operator waits on top. -/
def Settled : List Pending → Prop
  | [] => True
  | p :: _ => p.isOperator = false

variable {pending : List Pending} {e : Expr}

/-- What is applied before another operator is an operator. -/
theorem isOperator_of_reducesBefore {p : Pending} {precedence : Nat} {assoc : Associativity}
    (h : p.reducesBefore precedence assoc = true) : p.isOperator = true := by
  cases p with
  | prefixed op | infixed op => rfl
  | group op target items base => cases h

/-- Under no operator no operators are due. -/
theorem Settled.takeWhile_isOperator (h : Settled pending) : pending.takeWhile isOperator = [] := by
  cases pending with
  | nil => rfl
  | cons p below => exact List.takeWhile_cons_of_neg (Bool.eq_false_iff.mp h)

/-- Under no operator nothing is applied before another operator. -/
theorem Settled.takeWhile_reducesBefore (h : Settled pending) (precedence : Nat)
    (assoc : Associativity) : pending.takeWhile (·.reducesBefore precedence assoc) = [] := by
  cases pending with
  | nil => rfl
  | cons p below =>
    exact List.takeWhile_cons_of_neg fun hp =>
      Bool.eq_false_iff.mp h (isOperator_of_reducesBefore hp)

/-- The waiting operator of an expression is all that is due in front of a group. -/
theorem Settled.takeWhile_waiting (h : Settled pending) :
    (e.waiting ++ pending).takeWhile isOperator = e.waiting := by
  have hall : ∀ p ∈ e.waiting, p.isOperator = true := by
    cases e <;> simp [Expr.waiting, isOperator]
  rw [List.takeWhile_append_of_pos hall, h.takeWhile_isOperator, List.append_nil]

/-- The waiting operator of a member is applied before the group of an invocation opens. -/
theorem Settled.takeWhile_invocable (h : Settled pending) (he : e.isInvocable = true) :
    (e.waiting ++ pending).takeWhile
      (·.reducesBefore OperatorTable.parenthesis.precedence .left) = e.waiting := by
  have hall : ∀ p ∈ e.waiting,
      p.reducesBefore OperatorTable.parenthesis.precedence .left = true := by
    cases e with
    | identifier name => simp [Expr.waiting]
    | member target name =>
      simp only [Expr.waiting, List.mem_singleton]
      rintro _ rfl
      rfl
    | _ => cases he
  rw [List.takeWhile_append_of_pos hall, h.takeWhile_reducesBefore, List.append_nil]

end Pending

/-- Under no operator another operator has nothing to apply first. -/
theorem Pending.Settled.runs_applyDue_reducesBefore {pending : List Pending}
    (h : Pending.Settled pending) (operands : List Expr) (precedence : Nat)
    (assoc : Associativity) :
    ExprBuilder.Runs (ExprBuilder.applyDue (pending.takeWhile (·.reducesBefore precedence assoc)))
      ⟨operands, pending, false⟩ () ⟨operands, pending, false⟩ := by
  rw [h.takeWhile_reducesBefore]
  exact ExprBuilder.runs_pure_iff.mpr ⟨rfl, rfl⟩

namespace Expr

open OperatorTable ExprBuilder

variable {e : Expr} {operands : List Expr} {pending : List Pending}

/-- The operator that waits of an expression over the standard operators takes what it waits for. -/
theorem runs_applyDue_waiting (h : e.IsStandard) (operands : List Expr) (pending : List Pending) :
    Runs (applyDue e.waiting) ⟨e.parts ++ operands, e.waiting ++ pending, false⟩ ()
      ⟨e :: operands, pending, false⟩ := by
  cases e with
  | unary op operand =>
    obtain ⟨hm, hs, hn, -⟩ := h
    refine runs_applyDue_cons_iff.mpr ⟨_, runs_apply_prefixed_iff.mpr
      ⟨operand, operands, rfl, fun hr => hn (symbol_of_rightName op hm hs hr), rfl⟩, ?_⟩
    exact runs_pure_iff.mpr ⟨rfl, rfl⟩
  | binary op left right =>
    obtain ⟨hm, ha, hd, -⟩ := h
    obtain ⟨hr, hl, ho⟩ := operands_of_infixed op hm ha hd
    refine runs_applyDue_cons_iff.mpr ⟨_, runs_apply_infixed_iff.mpr
      ⟨right, left, operands, rfl, by simp [hr], by simp [hl], rfl⟩, ?_⟩
    have hj : joined op left right = .binary op left right := by
      unfold joined
      split
      · next hmember => exact absurd hmember ho
      · rfl
    rw [hj]
    exact runs_pure_iff.mpr ⟨rfl, rfl⟩
  | member target name =>
    have hleft : ¬dot.leftName = true := by decide
    refine runs_applyDue_cons_iff.mpr ⟨_, runs_apply_infixed_iff.mpr
      ⟨.identifier name, target, operands, rfl, fun _ => Option.some_ne_none name,
        fun hl => absurd hl hleft, rfl⟩, ?_⟩
    exact runs_pure_iff.mpr ⟨rfl, rfl⟩
  | _ => exact runs_pure_iff.mpr ⟨rfl, rfl⟩

/-- The end of a group or item applies the operator that waits of an expression. -/
theorem runs_applyDue_isOperator (hp : Pending.Settled pending) (h : e.IsStandard)
    (operands : List Expr) :
    Runs (applyDue ((e.waiting ++ pending).takeWhile Pending.isOperator))
      ⟨e.parts ++ operands, e.waiting ++ pending, false⟩ () ⟨e :: operands, pending, false⟩ := by
  rw [hp.takeWhile_waiting]
  exact runs_applyDue_waiting h operands pending

/-- The start of an invocation applies the operator that waits of what it invokes. -/
theorem runs_applyDue_invocable (hp : Pending.Settled pending) (hi : e.isInvocable = true)
    (h : e.IsStandard) (operands : List Expr) :
    Runs (applyDue
        ((e.waiting ++ pending).takeWhile (·.reducesBefore parenthesis.precedence .left)))
      ⟨e.parts ++ operands, e.waiting ++ pending, false⟩ () ⟨e :: operands, pending, false⟩ := by
  rw [hp.takeWhile_invocable hi]
  exact runs_applyDue_waiting h operands pending

/-- Wherever an operand is expected and no operator waits on top, the spelling is taken, and leaves
the last operator of the expression waiting for what ends the expression. -/
def IsTaken (e : Expr) : Prop :=
  ∀ operands pending, Pending.Settled pending →
    TakesAll standard ⟨operands, pending, true⟩ e.spelling
      ⟨e.parts ++ operands, e.waiting ++ pending, false⟩

/-- What encloses a part is taken wherever an operand is expected, and leaves the part as an
operand. -/
theorem IsTaken.enclosed (ht : e.IsTaken) (h : e.IsStandard) (operands : List Expr)
    (pending : List Pending) :
    TakesAll standard ⟨operands, pending, true⟩ (e.enclose e.spelling)
      ⟨e :: operands, pending, false⟩ := by
  unfold enclose
  split
  · next hs =>
    cases e with
    | literal v => exact .single unambiguous_standard (.literal rfl)
    | identifier name => exact .single unambiguous_standard (.identifier rfl)
    | _ => cases hs
  · have hopen : Pending.Settled (.group parenthesis none [] operands.length :: pending) := rfl
    have hinner := ht operands _ hopen
    have hdue := runs_applyDue_isOperator hopen h operands
    exact .cons unambiguous_standard (.opened rfl opened?_parenthesis) (hinner.append
      (.single unambiguous_standard (.closed rfl closed?_parenthesis hdue rfl rfl rfl)))

/-- Items that separators divide, and the symbol that ends their group, are taken where the group
expects an item; they leave what the group forms with these items behind those it has. -/
theorem takesAll_items {es items : List Expr} {op : Operator} {target : Option Expr} {base : Nat}
    {s : String} {x : Expr} (hne : es ≠ [])
    (hes : ∀ e ∈ es, e.IsTaken ∧ e.IsStandard) (hs : standard.closed? s = some op)
    (hx : formed? op target (items ++ es) = some x) :
    TakesAll standard ⟨operands, .group op target items base :: pending, true⟩
      ([.symbol ","].intercalate (itemSpellings es) ++ [.symbol s])
      ⟨x :: operands, pending, false⟩ := by
  induction es generalizing items with
  | nil => exact absurd rfl hne
  | cons e es ih =>
    obtain ⟨htaken, hstandard⟩ := hes e List.mem_cons_self
    have hitem := htaken.enclosed hstandard operands (.group op target items base :: pending)
    cases es with
    | nil =>
      rw [itemSpellings, itemSpellings, List.intercalate_singleton]
      exact hitem.append (.single unambiguous_standard
        (.closed rfl hs (runs_pure_iff.mpr ⟨rfl, rfl⟩) rfl rfl hx))
    | cons e' es =>
      rw [itemSpellings, itemSpellings, List.intercalate_cons_cons, List.append_assoc,
        List.append_assoc, ← itemSpellings]
      refine hitem.append (.cons unambiguous_standard
        (.separated rfl rfl (runs_pure_iff.mpr ⟨rfl, rfl⟩) rfl rfl) ?_)
      exact ih (List.cons_ne_nil e' es) (fun e he => hes e (List.mem_cons_of_mem _ he))
        (by rwa [List.append_assoc])

/-- A group that has just opened takes its items, if there are any, and its end. -/
theorem takesAll_group {es : List Expr} {op : Operator} {target : Option Expr} {s : String}
    {x : Expr} (hes : ∀ e ∈ es, e.IsTaken ∧ e.IsStandard) (hs : standard.closed? s = some op)
    (hx : formed? op target es = some x) :
    TakesAll standard ⟨operands, .group op target [] operands.length :: pending, true⟩
      ([.symbol ","].intercalate (itemSpellings es) ++ [.symbol s])
      ⟨x :: operands, pending, false⟩ := by
  cases es with
  | nil => exact .single unambiguous_standard (.closedEmpty rfl hs rfl hx)
  | cons e es => exact takesAll_items (List.cons_ne_nil e es) hes hs hx

mutual

/-- The spelling of every expression over the standard operators is taken. -/
theorem isTaken : (e : Expr) → e.IsStandard → e.IsTaken
  | .literal v, _ => fun _ _ _ => .single unambiguous_standard (.literal rfl)
  | .identifier name, _ => fun _ _ _ => .single unambiguous_standard (.identifier rfl)
  | .unary op operand, h => fun operands pending _ => by
    obtain ⟨hm, hs, -, ho⟩ := h
    have hread : standard.prefixed? op.symbol = some op := by
      rw [← reads?_prefixed]
      exact unambiguous_standard.reads?_of_mem hm (by simp [Operator.uses, hs])
    rw [spelling]
    exact .cons unambiguous_standard (.prefixed rfl hread) ((isTaken operand ho).enclosed ho _ _)
  | .binary op left right, h => fun operands pending hp => by
    obtain ⟨hm, ha, -, hl, hr⟩ := h
    obtain ⟨assoc, hs⟩ : ∃ assoc, op.shape = .infixed assoc := by
      unfold Operator.assoc? at ha
      split at ha
      · next assoc hs => exact ⟨assoc, hs⟩
      · exact absurd rfl ha
    have hread : standard.infixed? op.symbol = some op := by
      rw [← reads?_infixed]
      exact unambiguous_standard.reads?_of_mem hm (by simp [Operator.uses, hs])
    rw [spelling]
    exact ((isTaken left hl).enclosed hl _ _).append (.cons unambiguous_standard
      (.infixed rfl hread hs
        (hp.runs_applyDue_reducesBefore (left :: operands) op.precedence assoc))
      ((isTaken right hr).enclosed hr _ _))
  | .member target name, h => fun operands pending hp => by
    have ht : target.IsStandard := h
    rw [spelling]
    exact ((isTaken target ht).enclosed ht _ _).append (.cons unambiguous_standard
      (.infixed rfl infixed?_dot rfl
        (hp.runs_applyDue_reducesBefore (target :: operands) dot.precedence .left))
      (.single unambiguous_standard (.identifier rfl)))
  | .list items, h => fun operands pending _ => by
    rw [spelling]
    exact .cons unambiguous_standard (.opened rfl opened?_bracket)
      (takesAll_group (isTaken_of_mem items h) closed?_bracket rfl)
  | .invoke target args, h => fun operands pending hp => by
    obtain ⟨hi, ht, ha⟩ := h
    have hdue := runs_applyDue_invocable hp hi ht operands
    rw [spelling, List.append_assoc]
    exact (isTaken target ht operands pending hp).append (.cons unambiguous_standard
      (.applied rfl opened?_parenthesis hdue rfl (.inr hi))
      (takesAll_group (isTaken_of_mem args ha) closed?_parenthesis rfl))
  | .index target key, h => fun operands pending hp => by
    obtain ⟨ht, hk⟩ := h
    have hkey : ∀ e ∈ [key], e.IsTaken ∧ e.IsStandard :=
      List.forall_mem_singleton.mpr ⟨isTaken key hk, hk⟩
    have hitem : key.enclose key.spelling = [.symbol ","].intercalate (itemSpellings [key]) := by
      rw [itemSpellings, itemSpellings, List.intercalate_singleton]
    rw [spelling, hitem, List.append_assoc]
    exact ((isTaken target ht).enclosed ht _ _).append (.cons unambiguous_standard
      (.applied rfl opened?_bracket
        (hp.runs_applyDue_reducesBefore (target :: operands) bracket.precedence .left) rfl
        (.inl rfl))
      (takesAll_group hkey closed?_bracket rfl))

/-- The spelling of each item over the standard operators is taken. -/
theorem isTaken_of_mem : (es : List Expr) → AllStandard es → ∀ e ∈ es, e.IsTaken ∧ e.IsStandard
  | [], _ => fun _ he => nomatch he
  | e :: es, h => fun e' he => by
    obtain ⟨hhead, htail⟩ := h
    have htaken := isTaken e hhead
    have hrest := isTaken_of_mem es htail
    rcases List.mem_cons.mp he with he | he
    · rw [he]
      exact ⟨htaken, hhead⟩
    · exact hrest e' he

end

end Expr

namespace ExprBuilder

open OperatorTable

/-- Every expression over the standard operators is written by its spelling: the builder takes all
of it and gives exactly that expression. -/
theorem build_spelling {e : Expr} (h : e.IsStandard) : build standard e.spelling = .ok e := by
  have htaken := Expr.isTaken e h [] [] trivial
  rw [List.append_nil, List.append_nil] at htaken
  have hdue := Expr.runs_applyDue_waiting h [] []
  rw [List.append_nil, List.append_nil] at hdue
  have hclose : Runs close ⟨e.parts, e.waiting, false⟩ e ⟨[], [], false⟩ :=
    runs_close_iff.mpr ⟨rfl, _, hdue, rfl, rfl⟩
  have hbuild : Runs (do e.spelling.forM (push standard); close) start e ⟨[], [], false⟩ :=
    runs_bind_iff.mpr ⟨(), _, htaken, hclose⟩
  exact congrArg Prod.fst hbuild

/-- The expression `((-(x.y)).f((a == b), ([])))[(?c)]`. -/
def nested : Expr :=
  .index
    (.invoke
      (.member (.unary (Operator.prefixOp "-" 1 .negate) (.member (.identifier "x") "y")) "f")
      [.binary (Operator.infixOp "==" 7 .left .equal) (.identifier "a") (.identifier "b"),
        .list []])
    (.unary (Operator.prefixOp "?" 1 .defined).withRightName (.identifier "c"))

/-- The law at an expression in which lists, invocations, members and operators nest. -/
theorem build_spelling_nested :
    nested.IsStandard ∧
    build standard [.symbol "(", .symbol "(", .symbol "-", .symbol "(", .identifier "x",
        .symbol ".", .identifier "y", .symbol ")", .symbol ")", .symbol ".", .identifier "f",
        .symbol "(", .symbol "(", .identifier "a", .symbol "==", .identifier "b", .symbol ")",
        .symbol ",", .symbol "(", .symbol "[", .symbol "]", .symbol ")", .symbol ")", .symbol ")",
        .symbol "[", .symbol "(", .symbol "?", .identifier "c", .symbol ")", .symbol "]"] =
      .ok nested := by
  have h : nested.IsStandard := by
    simp only [nested, Expr.IsStandard, Expr.AllStandard]
    decide
  refine ⟨h, Eq.trans (congrArg (build standard) ?_) (build_spelling h)⟩
  rfl

end ExprBuilder

end TagTemplate
