import TagTemplate.Expr.Builder

/-!
# Runs of builder steps

A step of a builder either fails or gives a result and another builder. `Runs` is the second
outcome as a relation. Each step of the builder has one lemma here that says exactly when it runs
and what it leaves; a composed step is taken apart with `runs_bind_iff`, so no later proof looks
into the error and state layers. `Taken` lists all that taking one piece can do.
-/

namespace TagTemplate

namespace Expr

/-- The tree of an infix operator and its operands; a member where the operation and a bare name
on the right ask for one. -/
def joined (op : Operator) (left right : Expr) : Expr :=
  match op.operation, right with
  | .member, .identifier name => .member left name
  | _, _ => .binary op left right

/-- The one item of a list that has exactly one. -/
def only? : List Expr → Option Expr
  | [e] => some e
  | _ => none

/-- The expression that a closed group forms, if its number of items allows one. -/
def formed? (op : Operator) (target : Option Expr) (items : List Expr) : Option Expr :=
  match target with
  | some target =>
    if op.operation = .bracket then (only? items).map (.index target)
    else some (.invoke target items)
  | none => if op.operation = .bracket then some (.list items) else only? items

end Expr

namespace ExprBuilder

variable {α β : Type} {b after : ExprBuilder} {u : Unit}

/-- The step gives `a` and turns the builder `b` into `after`. -/
def Runs (x : Step α) (b : ExprBuilder) (a : α) (after : ExprBuilder) : Prop :=
  x.run.run b = (.ok a, after)

/-- A composed step runs its first part and goes on from there; a failure ends both. -/
theorem runs_bind_iff {x : Step α} {f : α → Step β} {c : β} :
    Runs (x >>= f) b c after ↔ ∃ a between, Runs x b a between ∧ Runs (f a) between c after := by
  have he : (x >>= f).run.run b = match x.run.run b with
      | (.ok a, between) => (f a).run.run between
      | (.error error, between) => (.error error, between) := by
    rw [ExceptT.run_bind, StateT.run_bind]
    cases hx : x.run.run b with
    | mk r between => cases r <;> rfl
  unfold Runs
  rw [he]
  cases hx : x.run.run b with
  | mk r between =>
    cases r with
    | error error =>
      constructor
      · intro h
        cases h
      · rintro ⟨a, between', hr, h⟩
        cases hr
    | ok a =>
      constructor
      · intro h
        exact ⟨a, between, rfl, h⟩
      · rintro ⟨a', between', hr, h⟩
        cases hr
        exact h

/-- A finished step leaves the builder as it is. -/
@[simp] theorem runs_pure_iff {a c : α} : Runs (pure a) b c after ↔ c = a ∧ after = b := by
  change (Except.ok a, b) = (Except.ok c, after) ↔ _
  simp only [Prod.mk.injEq, Except.ok.injEq]
  exact and_congr eq_comm eq_comm

/-- A failure never runs. -/
@[simp] theorem not_runs_throw {error : ExprError} {c : α} : ¬Runs (throw error) b c after := by
  intro h
  cases h

/-- Looking at the builder leaves it as it is. -/
@[simp] theorem runs_get_iff {c : ExprBuilder} : Runs get b c after ↔ c = b ∧ after = b := by
  change (Except.ok b, b) = (Except.ok c, after) ↔ _
  simp only [Prod.mk.injEq, Except.ok.injEq]
  exact and_congr eq_comm eq_comm

/-- A change always runs. -/
@[simp] theorem runs_modify_iff {f : ExprBuilder → ExprBuilder} :
    Runs (modify f) b u after ↔ after = f b := by
  change (Except.ok (), f b) = (Except.ok u, after) ↔ _
  simp only [Prod.mk.injEq, true_and]
  exact eq_comm

/-- A step after a failure never runs. -/
theorem not_runs_throw_bind {error : ExprError} {f : β → Step α} {c : α} :
    ¬Runs (throw error >>= f) b c after := by
  intro h
  obtain ⟨_, _, hr, -⟩ := runs_bind_iff.mp h
  exact not_runs_throw hr

/-- A choice whose first branch never runs is a check: it runs as the second branch does. -/
theorem runs_check_iff {p : Prop} [Decidable p] {x y : Step α} {c : α}
    (hx : ¬Runs x b c after) :
    Runs (if p then x else y) b c after ↔ ¬p ∧ Runs y b c after := by
  by_cases hp : p <;> simp [hp, hx]

/-- A choice whose second branch never runs is a guard: it runs as the first branch does. -/
theorem runs_guard_iff {p : Prop} [Decidable p] {x y : Step α} {c : α}
    (hy : ¬Runs y b c after) :
    Runs (if p then x else y) b c after ↔ p ∧ Runs x b c after := by
  by_cases hp : p <;> simp [hp, hy]

/-- Pushing an operand always runs. -/
theorem runs_pushOperand_iff {e : Expr} :
    Runs (pushOperand e) b u after ↔ after = { b with operands := e :: b.operands } :=
  runs_modify_iff

/-- Pushing an entry always runs. -/
theorem runs_pushPending_iff {p : Pending} :
    Runs (pushPending p) b u after ↔ after = { b with pending := p :: b.pending } :=
  runs_modify_iff

/-- Setting what has to come next always runs. -/
theorem runs_setWants_iff {wants : Bool} :
    Runs (setWants wants) b u after ↔ after = { b with wantsOperand := wants } :=
  runs_modify_iff

/-- An operand that is taken is pushed, and an operator has to come next. -/
theorem runs_acceptOperand_iff {e : Expr} :
    Runs (acceptOperand e) b u after ↔ after = ⟨e :: b.operands, b.pending, false⟩ := by
  simp [acceptOperand, runs_bind_iff, runs_pushOperand_iff, runs_setWants_iff]

/-- Taking the top operand runs exactly when there is one. -/
theorem runs_popOperand_iff {e : Expr} :
    Runs popOperand b e after ↔
      ∃ rest, b.operands = e :: rest ∧ after = { b with operands := rest } := by
  unfold popOperand
  rw [runs_bind_iff]
  constructor
  · rintro ⟨_, _, hg, h⟩
    obtain ⟨rfl, rfl⟩ := runs_get_iff.mp hg
    split at h
    · exact absurd h not_runs_throw
    · next top rest hb =>
      obtain ⟨_, _, hm, hp⟩ := runs_bind_iff.mp h
      obtain ⟨rfl, rfl⟩ := runs_pure_iff.mp hp
      exact ⟨rest, hb, runs_modify_iff.mp hm⟩
  · rintro ⟨rest, hb, rfl⟩
    refine ⟨b, b, runs_get_iff.mpr ⟨rfl, rfl⟩, ?_⟩
    rw [hb]
    exact runs_bind_iff.mpr ⟨(), _, runs_modify_iff.mpr rfl, runs_pure_iff.mpr ⟨rfl, rfl⟩⟩

/-- A prefix operator takes one operand, which is a name where the operator asks for one. -/
theorem runs_apply_prefixed_iff {op : Operator} :
    Runs (apply (.prefixed op)) b u after ↔
      ∃ operand rest, b.operands = operand :: rest ∧
        (op.rightName = true → operand.name? ≠ none) ∧
        after = { b with operands := .unary op operand :: rest } := by
  simp only [apply, runs_bind_iff, runs_popOperand_iff, runs_check_iff not_runs_throw_bind,
    runs_pushOperand_iff]
  constructor
  · rintro ⟨operand, _, ⟨rest, hb, rfl⟩, hn, rfl⟩
    exact ⟨operand, rest, hb, by simpa using hn, rfl⟩
  · rintro ⟨operand, rest, hb, hn, rfl⟩
    exact ⟨operand, _, ⟨rest, hb, rfl⟩, by simpa using hn, rfl⟩

/-- The last part of applying an infix operator pushes the tree that it forms. -/
theorem runs_pushJoined_iff {op : Operator} {left right : Expr} :
    Runs (match op.operation, right with
      | .member, .identifier name => pushOperand (.member left name)
      | _, _ => pushOperand (.binary op left right)) b u after ↔
      after = { b with operands := Expr.joined op left right :: b.operands } := by
  unfold Expr.joined
  split <;> exact runs_pushOperand_iff

/-- An infix operator takes two operands, which are names where the operator asks for them. -/
theorem runs_apply_infixed_iff {op : Operator} :
    Runs (apply (.infixed op)) b u after ↔
      ∃ right left rest, b.operands = right :: left :: rest ∧
        (op.rightName = true → right.name? ≠ none) ∧
        (op.leftName = true → left.name? ≠ none) ∧
        after = { b with operands := Expr.joined op left right :: rest } := by
  simp only [apply, runs_bind_iff, runs_popOperand_iff, runs_check_iff not_runs_throw_bind]
  constructor
  · rintro ⟨right, _, ⟨_, hb, rfl⟩, left, _, ⟨rest, rfl, rfl⟩, hn, hj⟩
    have hn : (op.rightName = true → right.name? ≠ none) ∧
        (op.leftName = true → left.name? ≠ none) := by simpa using hn
    exact ⟨right, left, rest, hb, hn.1, hn.2, runs_pushJoined_iff.mp hj⟩
  · rintro ⟨right, left, rest, hb, hr, hl, rfl⟩
    exact ⟨right, _, ⟨_, hb, rfl⟩, left, _, ⟨rest, rfl, rfl⟩, by simpa using ⟨hr, hl⟩,
      runs_pushJoined_iff.mpr rfl⟩

/-- An open group is never applied like an operator. -/
theorem not_runs_apply_group {op : Operator} {target : Option Expr} {items : List Expr}
    {base : Nat} : ¬Runs (apply (.group op target items base)) b u after :=
  not_runs_throw

/-- Entries that are due are taken off and applied one by one. -/
theorem runs_applyDue_cons_iff {p : Pending} {due : List Pending} :
    Runs (applyDue (p :: due)) b u after ↔
      ∃ between, Runs (apply p) { b with pending := b.pending.tail } () between ∧
        Runs (applyDue due) between u after := by
  simp only [applyDue, runs_bind_iff, runs_modify_iff]
  constructor
  · rintro ⟨_, _, rfl, _, between, ha, hd⟩
    exact ⟨between, ha, hd⟩
  · rintro ⟨between, ha, hd⟩
    exact ⟨(), _, rfl, (), between, ha, hd⟩

/-- What is due before an operator comes in is the run of entries on top that bind before it. -/
theorem runs_applyBefore_iff {precedence : Nat} {assoc : Associativity} :
    Runs (applyBefore precedence assoc) b u after ↔
      Runs (applyDue (b.pending.takeWhile (·.reducesBefore precedence assoc))) b u after := by
  simp only [applyBefore, runs_bind_iff, runs_get_iff]
  constructor
  · rintro ⟨_, _, ⟨rfl, rfl⟩, h⟩
    exact h
  · intro h
    exact ⟨b, b, ⟨rfl, rfl⟩, h⟩

/-- Finishing an item applies the operators on top and moves the operand into the group. -/
theorem runs_finishItem_iff {t : OperatorTable} {symbol : String} :
    Runs (finishItem t symbol) b u after ↔
      ∃ between item rest op target items base below,
        Runs (applyDue (b.pending.takeWhile Pending.isOperator)) b () between ∧
        between.operands = item :: rest ∧
        between.pending = .group op target items base :: below ∧
        after = ⟨rest, .group op target (items ++ [item]) base :: below, between.wantsOperand⟩ := by
  simp only [finishItem, runs_bind_iff, runs_get_iff, runs_popOperand_iff]
  constructor
  · rintro ⟨_, _, ⟨rfl, rfl⟩, _, between, hd, item, _, ⟨rest, hi, rfl⟩, _, _, ⟨rfl, rfl⟩, h⟩
    dsimp only at h
    split at h
    · next op target items base below hp =>
      exact ⟨between, item, rest, op, target, items, base, below, hd, hi, hp,
        runs_modify_iff.mp h⟩
    · rw [runs_check_iff not_runs_throw] at h
      exact absurd h.2 not_runs_throw
  · rintro ⟨between, item, rest, op, target, items, base, below, hd, hi, hp, rfl⟩
    refine ⟨b, b, ⟨rfl, rfl⟩, (), between, hd, item, _, ⟨rest, hi, rfl⟩, _, _, ⟨rfl, rfl⟩, ?_⟩
    rw [hp]
    exact runs_modify_iff.mpr rfl

/-- The one item of a group is there exactly when there is one item. -/
theorem runs_single_iff {op : Operator} {items : List Expr} {e : Expr} :
    Runs (single op items) b e after ↔ Expr.only? items = some e ∧ after = b := by
  unfold single
  split
  · rw [runs_pure_iff, Expr.only?, Option.some.injEq, eq_comm (a := e)]
  · next hi =>
    have hn : Expr.only? items = none := by
      unfold Expr.only?
      split
      · exact absurd rfl (hi _)
      · rfl
    rw [hn]
    simp

/-- A group forms an expression exactly when its number of items allows one. -/
theorem runs_formGroup_iff {op : Operator} {target : Option Expr} {items : List Expr} {e : Expr} :
    Runs (formGroup op target items) b e after ↔
      Expr.formed? op target items = some e ∧ after = b := by
  unfold formGroup
  split
  · next target ho =>
    simp only [Expr.formed?, if_pos ho, runs_bind_iff, runs_single_iff, runs_pure_iff,
      Option.map_eq_some_iff]
    constructor
    · rintro ⟨key, _, ⟨hk, rfl⟩, rfl, rfl⟩
      exact ⟨⟨key, hk, rfl⟩, rfl⟩
    · rintro ⟨⟨key, hk, rfl⟩, rfl⟩
      exact ⟨key, _, ⟨hk, rfl⟩, rfl, rfl⟩
  · next ho => rw [runs_pure_iff, Expr.formed?, if_pos ho, Option.some.injEq, eq_comm]
  · next target ho => rw [runs_pure_iff, Expr.formed?, if_neg ho, Option.some.injEq, eq_comm]
  · next ho => rw [runs_single_iff, Expr.formed?, if_neg ho]

/-- Closing takes the innermost group off and pushes the expression that it forms. -/
theorem runs_closeGroup_iff :
    Runs closeGroup b u after ↔
      ∃ op target items base below e, b.pending = .group op target items base :: below ∧
        Expr.formed? op target items = some e ∧ after = ⟨e :: b.operands, below, false⟩ := by
  simp only [closeGroup, runs_bind_iff, runs_get_iff]
  constructor
  · rintro ⟨_, _, ⟨rfl, rfl⟩, h⟩
    split at h
    · next op target items base below hp =>
      simp only [runs_bind_iff, runs_modify_iff, runs_formGroup_iff, runs_acceptOperand_iff] at h
      obtain ⟨_, _, rfl, e, _, ⟨he, rfl⟩, rfl⟩ := h
      exact ⟨op, target, items, base, below, e, hp, he, rfl⟩
    · next h' =>
      obtain ⟨_, _, -, ht⟩ := runs_bind_iff.mp h
      exact absurd ht not_runs_throw
    · exact absurd h not_runs_throw
  · rintro ⟨op, target, items, base, below, e, hp, he, rfl⟩
    refine ⟨b, b, ⟨rfl, rfl⟩, ?_⟩
    rw [hp]
    simp only [runs_bind_iff, runs_modify_iff, runs_formGroup_iff, runs_acceptOperand_iff]
    exact ⟨(), _, rfl, e, _, ⟨he, rfl⟩, rfl⟩

/-- Opening a group on an operand first applies what binds before the group, and takes what then
is on top as what the group applies to. -/
theorem runs_openOn_iff {op : Operator} :
    Runs (openOn op) b u after ↔
      ∃ between target rest, Runs (applyBefore op.precedence .left) b () between ∧
        between.operands = target :: rest ∧
        (op.operation = .bracket ∨ target.isInvocable = true) ∧
        after = ⟨rest, .group op (some target) [] rest.length :: between.pending, true⟩ := by
  simp only [openOn, runs_bind_iff, runs_popOperand_iff, runs_check_iff not_runs_throw_bind,
    runs_get_iff, runs_pushPending_iff, runs_setWants_iff]
  have hn : ∀ target : Expr, ¬(decide (op.operation ≠ .bracket) && !target.isInvocable) = true ↔
      op.operation = .bracket ∨ target.isInvocable = true := by
    intro target
    simp only [ne_eq, decide_not, Bool.and_eq_true, Bool.not_eq_eq_eq_not, Bool.not_true,
      decide_eq_false_iff_not, not_and, Bool.not_eq_false]
    exact Decidable.imp_iff_or_not.trans (by rw [Decidable.not_not, or_comm])
  constructor
  · rintro ⟨_, between, hd, target, _, ⟨rest, hi, rfl⟩, hc, _, _, ⟨rfl, rfl⟩, _, _, rfl, rfl⟩
    exact ⟨between, target, rest, hd, hi, (hn target).mp hc, rfl⟩
  · rintro ⟨between, target, rest, hd, hi, hc, rfl⟩
    exact ⟨(), between, hd, target, _, ⟨rest, hi, rfl⟩, (hn target).mpr hc, _, _, ⟨rfl, rfl⟩,
      (), _, rfl, rfl⟩

/-- Closing with a symbol finishes the last item and closes the group, which must be that of the
symbol. -/
theorem runs_closeWith_iff {t : OperatorTable} {op : Operator} {symbol : String} :
    Runs (closeWith t op symbol) b u after ↔
      ∃ between item rest target items base below e,
        Runs (applyDue (b.pending.takeWhile Pending.isOperator)) b () between ∧
        between.operands = item :: rest ∧
        between.pending = .group op target items base :: below ∧
        Expr.formed? op target (items ++ [item]) = some e ∧ after = ⟨e :: rest, below, false⟩ := by
  simp only [closeWith, runs_bind_iff, runs_get_iff]
  constructor
  · rintro ⟨_, _, hf, _, _, ⟨rfl, rfl⟩, h⟩
    obtain ⟨between, item, rest, opener, target, items, base, below, hd, hi, hp, rfl⟩ :=
      runs_finishItem_iff.mp hf
    dsimp only at h
    rw [runs_guard_iff not_runs_throw] at h
    obtain ⟨rfl, h⟩ := h
    obtain ⟨_, _, _, _, _, e, hq, he, rfl⟩ := runs_closeGroup_iff.mp h
    cases hq
    exact ⟨between, item, rest, target, items, base, below, e, hd, hi, hp, he, rfl⟩
  · rintro ⟨between, item, rest, target, items, base, below, e, hd, hi, hp, he, rfl⟩
    have hf : Runs (finishItem t symbol) b ()
        ⟨rest, .group op target (items ++ [item]) base :: below, between.wantsOperand⟩ :=
      runs_finishItem_iff.mpr ⟨between, item, rest, op, target, items, base, below, hd, hi, hp, rfl⟩
    refine ⟨(), _, hf, _, _, ⟨rfl, rfl⟩, ?_⟩
    dsimp only
    rw [runs_guard_iff not_runs_throw]
    exact ⟨rfl, runs_closeGroup_iff.mpr ⟨op, target, _, base, below, e, rfl, he, rfl⟩⟩

/-- All that taking a piece can do. Where an operand is expected nothing is applied; where an
operator is expected, the operators that bind before the piece are applied first. -/
inductive Taken (t : OperatorTable) (b : ExprBuilder) : ExprPiece → ExprBuilder → Prop
  /-- A value is an operand. -/
  | literal {v : Value} (hw : b.wantsOperand = true) :
    Taken t b (.literal v) ⟨.literal v :: b.operands, b.pending, false⟩
  /-- A name is an operand. -/
  | identifier {name : String} (hw : b.wantsOperand = true) :
    Taken t b (.identifier name) ⟨.identifier name :: b.operands, b.pending, false⟩
  /-- A prefix operator waits for its operand. -/
  | prefixed {s : String} {op : Operator} (hw : b.wantsOperand = true)
      (ht : t.prefixed? s = some op) :
    Taken t b (.symbol s) ⟨b.operands, .prefixed op :: b.pending, true⟩
  /-- A plain group opens. -/
  | opened {s : String} {op : Operator} (hw : b.wantsOperand = true)
      (ht : t.opened? s = some op) :
    Taken t b (.symbol s) ⟨b.operands, .group op none [] b.operands.length :: b.pending, true⟩
  /-- A group closes right after it has opened. -/
  | closedEmpty {s : String} {op : Operator} {target : Option Expr} {below : List Pending}
      {e : Expr} (hw : b.wantsOperand = true) (ht : t.closed? s = some op)
      (hp : b.pending = .group op target [] b.operands.length :: below)
      (he : Expr.formed? op target [] = some e) :
    Taken t b (.symbol s) ⟨e :: b.operands, below, false⟩
  /-- An infix operator waits for its right operand. -/
  | infixed {s : String} {op : Operator} {assoc : Associativity} {between : ExprBuilder}
      (hw : b.wantsOperand = false) (ht : t.infixed? s = some op)
      (ho : op.shape = .infixed assoc)
      (hr : Runs (applyDue (b.pending.takeWhile (·.reducesBefore op.precedence assoc)))
        b () between) :
    Taken t b (.symbol s) ⟨between.operands, .infixed op :: between.pending, true⟩
  /-- A group opens on the operand before it. -/
  | applied {s : String} {op : Operator} {between : ExprBuilder} {target : Expr}
      {rest : List Expr} (hw : b.wantsOperand = false) (ht : t.opened? s = some op)
      (hr : Runs (applyDue (b.pending.takeWhile (·.reducesBefore op.precedence .left)))
        b () between)
      (hi : between.operands = target :: rest)
      (hc : op.operation = .bracket ∨ target.isInvocable = true) :
    Taken t b (.symbol s)
      ⟨rest, .group op (some target) [] rest.length :: between.pending, true⟩
  /-- A separator ends an item of the innermost group. -/
  | separated {s : String} {sep op : Operator} {between : ExprBuilder} {item : Expr}
      {rest items : List Expr} {target : Option Expr} {base : Nat} {below : List Pending}
      (hw : b.wantsOperand = false) (ht : t.separator? s = some sep)
      (hr : Runs (applyDue (b.pending.takeWhile Pending.isOperator)) b () between)
      (hi : between.operands = item :: rest)
      (hp : between.pending = .group op target items base :: below) :
    Taken t b (.symbol s) ⟨rest, .group op target (items ++ [item]) base :: below, true⟩
  /-- A group closes after its last item. -/
  | closed {s : String} {op : Operator} {between : ExprBuilder} {item e : Expr}
      {rest items : List Expr} {target : Option Expr} {base : Nat} {below : List Pending}
      (hw : b.wantsOperand = false) (ht : t.closed? s = some op)
      (hr : Runs (applyDue (b.pending.takeWhile Pending.isOperator)) b () between)
      (hi : between.operands = item :: rest)
      (hp : between.pending = .group op target items base :: below)
      (he : Expr.formed? op target (items ++ [item]) = some e) :
    Taken t b (.symbol s) ⟨e :: rest, below, false⟩

/-- What a symbol can do where an operand is expected. -/
theorem taken_of_runs_pushBeforeOperand {t : OperatorTable} {s : String}
    (hw : b.wantsOperand = true) (h : Runs (pushBeforeOperand t s) b u after) :
    Taken t b (.symbol s) after := by
  unfold pushBeforeOperand at h
  split at h
  · next op ht =>
    rw [runs_pushPending_iff.mp h, hw]
    exact .prefixed hw ht
  · split at h
    · next op ht =>
      obtain ⟨_, _, hg, hp⟩ := runs_bind_iff.mp h
      obtain ⟨rfl, rfl⟩ := runs_get_iff.mp hg
      rw [runs_pushPending_iff.mp hp, hw]
      exact .opened hw ht
    · obtain ⟨_, _, hg, hp⟩ := runs_bind_iff.mp h
      obtain ⟨rfl, rfl⟩ := runs_get_iff.mp hg
      split at hp
      · next op opener target items base below ht hb =>
        split at hp
        · next hc =>
          obtain ⟨rfl, hi, rfl⟩ := hc
          rw [List.isEmpty_iff] at hi
          subst hi
          obtain ⟨_, _, _, _, _, e, hq, he, rfl⟩ := runs_closeGroup_iff.mp hp
          rw [hb] at hq
          cases hq
          exact .closedEmpty hw ht hb he
        · exact absurd hp not_runs_throw
      · exact absurd hp not_runs_throw

/-- What a symbol can do where an operator is expected. -/
theorem taken_of_runs_pushAfterOperand {t : OperatorTable} {s : String}
    (hw : b.wantsOperand = false) (h : Runs (pushAfterOperand t s) b u after) :
    Taken t b (.symbol s) after := by
  unfold pushAfterOperand at h
  split at h
  · next op ht =>
    split at h
    · next assoc ho =>
      obtain ⟨_, between, hr, h⟩ := runs_bind_iff.mp h
      obtain ⟨_, _, hp, h⟩ := runs_bind_iff.mp h
      rw [runs_setWants_iff.mp h, runs_pushPending_iff.mp hp]
      exact .infixed hw ht ho (runs_applyBefore_iff.mp hr)
    · exact absurd h not_runs_throw
  · split at h
    · next op ht =>
      obtain ⟨between, target, rest, hr, hi, hc, rfl⟩ := runs_openOn_iff.mp h
      exact .applied hw ht (runs_applyBefore_iff.mp hr) hi hc
    · split at h
      · next hs =>
        obtain ⟨sep, ht⟩ := Option.isSome_iff_exists.mp hs
        obtain ⟨_, _, hf, h⟩ := runs_bind_iff.mp h
        obtain ⟨between, item, rest, op, target, items, base, below, hr, hi, hp, rfl⟩ :=
          runs_finishItem_iff.mp hf
        rw [runs_setWants_iff.mp h]
        exact .separated hw ht hr hi hp
      · split at h
        · next op ht =>
          obtain ⟨between, item, rest, target, items, base, below, e, hr, hi, hp, he, rfl⟩ :=
            runs_closeWith_iff.mp h
          exact .closed hw ht hr hi hp he
        · exact absurd h not_runs_throw

/-- Taking a piece does nothing but what is listed. -/
theorem taken_of_runs_push {t : OperatorTable} {piece : ExprPiece}
    (h : Runs (push t piece) b u after) : Taken t b piece after := by
  obtain ⟨_, _, hg, hr⟩ := runs_bind_iff.mp h
  obtain ⟨rfl, rfl⟩ := runs_get_iff.mp hg
  cases piece with
  | literal v =>
    dsimp only at hr
    split at hr
    · next hw =>
      rw [runs_acceptOperand_iff.mp hr]
      exact .literal hw
    · exact absurd hr not_runs_throw
  | identifier name =>
    dsimp only at hr
    split at hr
    · next hw =>
      rw [runs_acceptOperand_iff.mp hr]
      exact .identifier hw
    · exact absurd hr not_runs_throw
  | symbol s =>
    dsimp only at hr
    split at hr
    · next hw => exact taken_of_runs_pushBeforeOperand hw hr
    · next hw => exact taken_of_runs_pushAfterOperand (Bool.eq_false_iff.mpr hw) hr

/-- Closing applies everything that waits and leaves nothing but the expression. -/
theorem runs_close_iff {e : Expr} :
    Runs close b e after ↔ b.wantsOperand = false ∧
      ∃ between, Runs (applyDue b.pending) b () between ∧ between.operands = [e] ∧
        after = { between with operands := [] } := by
  simp only [close, runs_bind_iff, runs_get_iff, runs_check_iff not_runs_throw_bind,
    runs_popOperand_iff]
  constructor
  · rintro ⟨_, _, ⟨rfl, rfl⟩, hw, _, _, ⟨rfl, rfl⟩, _, between, hr, item, _, ⟨rest, hi, rfl⟩,
      _, _, ⟨rfl, rfl⟩, h⟩
    dsimp only at h
    split at h
    · next hn =>
      rw [List.isEmpty_iff] at hn
      subst hn
      obtain ⟨rfl, rfl⟩ := runs_pure_iff.mp h
      exact ⟨by simpa using hw, between, hr, hi, rfl⟩
    · exact absurd h not_runs_throw
  · rintro ⟨hw, between, hr, hi, rfl⟩
    exact ⟨b, b, ⟨rfl, rfl⟩, by simp [hw], b, b, ⟨rfl, rfl⟩, (), between, hr, e, _, ⟨[], hi, rfl⟩,
      _, _, ⟨rfl, rfl⟩, runs_pure_iff.mpr ⟨rfl, rfl⟩⟩

end ExprBuilder

end TagTemplate
