import TagTemplate.Proofs.Context.Reports
import TagTemplate.Expr.Builder
import TagTemplate.Proofs.Expr.Outcome

/-!
# Checked expressions

What the builder gives has been checked: operators that ask for names have them, and only names and
members are invoked. The checks are made at different moments, when a group opens and when an operator
is applied, so the invariant speaks of both stacks; every step keeps it, also one that fails. A checked
expression fails with nothing but what its context reports.
-/

namespace TagTemplate

/-- The operators of an expression are those of the table and have names where they ask for them, and
what is invoked can be. -/
inductive Expr.Checked (t : OperatorTable) : Expr → Prop
  /-- A value. -/
  | literal (v : Value) : Checked t (.literal v)
  /-- A name. -/
  | identifier (name : String) : Checked t (.identifier name)
  /-- A prefix operator. -/
  | unary {op : Operator} {operand : Expr} (hop : op ∈ t.operators)
      (hn : op.rightName = true → operand.name? ≠ none) (h : Checked t operand) :
      Checked t (.unary op operand)
  /-- An infix operator. -/
  | binary {op : Operator} {left right : Expr} (hop : op ∈ t.operators)
      (hl : op.leftName = true → left.name? ≠ none) (hr : op.rightName = true → right.name? ≠ none)
      (hleft : Checked t left) (hright : Checked t right) : Checked t (.binary op left right)
  /-- An infix operator for members; the name is one. -/
  | member {op : Operator} {target : Expr} (name : String) (hop : op ∈ t.operators)
      (ho : op.operation = .member) (hl : op.leftName = true → target.name? ≠ none)
      (h : Checked t target) : Checked t (.member target name)
  /-- A list. -/
  | list {items : List Expr} (h : ∀ e ∈ items, Checked t e) : Checked t (.list items)
  /-- An invocation of a name or a member. -/
  | invoke {target : Expr} {args : List Expr} (hi : target.isInvocable = true)
      (h : Checked t target) (ha : ∀ e ∈ args, Checked t e) : Checked t (.invoke target args)
  /-- An item. -/
  | index {target key : Expr} (h : Checked t target) (hk : Checked t key) :
      Checked t (.index target key)

/-- An entry that waits is an operator of the table, or a group that may apply to its target. -/
def Pending.Checked (t : OperatorTable) : Pending → Prop
  | .prefixed op | .infixed op => op ∈ t.operators
  | .group op target items _ =>
    (∀ e ∈ target, e.Checked t ∧ (op.operation = .bracket ∨ e.isInvocable = true)) ∧
      ∀ e ∈ items, e.Checked t

namespace ExprBuilder

variable {t : OperatorTable} {α β : Type}

/-- All that is on the stacks of a builder has been checked. -/
structure Checked (t : OperatorTable) (b : ExprBuilder) : Prop where
  /-- The operands. -/
  operands : ∀ e ∈ b.operands, e.Checked t
  /-- What waits. -/
  pending : ∀ p ∈ b.pending, p.Checked t

/-- Whether it fails or not, a step leaves a checked builder behind if it begins with one; and what it
gives has the property. -/
def Keeps (t : OperatorTable) (x : Step α) (P : α → Prop) : Prop :=
  ∀ b : ExprBuilder, b.Checked t →
    (x.run.run b).2.Checked t ∧ ∀ a, (x.run.run b).1 = .ok a → P a

namespace Keeps

variable {P : α → Prop} {Q : β → Prop}

theorem pure {a : α} (h : P a) : Keeps t (pure a) P := fun _ hb => ⟨hb, fun _ he => by
  cases he
  exact h⟩

theorem throw (error : ExprError) : Keeps t (throw error) P := fun _ hb => ⟨hb, nofun⟩

theorem bind {x : Step α} {f : α → Step β} (hx : Keeps t x P) (hf : ∀ a, P a → Keeps t (f a) Q) :
    Keeps t (x >>= f) Q := by
  intro b hb
  obtain ⟨hafter, hgives⟩ := hx b hb
  rw [ExceptT.run_bind, StateT.run_bind]
  cases hr : x.run.run b with
  | mk result after =>
    rw [hr] at hafter hgives
    cases result with
    | error error => exact ⟨hafter, nofun⟩
    | ok a => exact hf a (hgives a rfl) after hafter

/-- A step that begins by looking at the builder sees a checked one. -/
theorem get_bind {f : ExprBuilder → Step β} (hf : ∀ b, b.Checked t → Keeps t (f b) Q) :
    Keeps t (get >>= f) Q :=
  fun b hb => hf b hb b hb

theorem modify {f : ExprBuilder → ExprBuilder} (h : ∀ b, b.Checked t → (f b).Checked t) :
    Keeps t (modify f) fun _ => True :=
  fun b hb => ⟨h b hb, fun _ _ => trivial⟩

/-- A check either fails or lets the step go on with what it found. -/
theorem check {c : Prop} [Decidable c] {error : ExprError} {x : Step α} (h : ¬c → Keeps t x P) :
    Keeps t (if c then MonadExcept.throw error else x) P := by
  split
  · exact throw error
  · next hc => exact h hc

end Keeps

/-- A pushed operand has to have been checked. -/
theorem keeps_pushOperand {e : Expr} (he : e.Checked t) : Keeps t (pushOperand e) fun _ => True :=
  .modify fun _ hb => ⟨List.forall_mem_cons.mpr ⟨he, hb.operands⟩, hb.pending⟩

/-- So has what is put to wait. -/
theorem keeps_pushPending {p : Pending} (hp : p.Checked t) :
    Keeps t (pushPending p) fun _ => True :=
  .modify fun _ hb => ⟨hb.operands, List.forall_mem_cons.mpr ⟨hp, hb.pending⟩⟩

theorem keeps_setWants (wants : Bool) : Keeps t (setWants wants) fun _ => True :=
  .modify fun _ hb => ⟨hb.operands, hb.pending⟩

theorem keeps_acceptOperand {e : Expr} (he : e.Checked t) :
    Keeps t (acceptOperand e) fun _ => True :=
  (keeps_pushOperand he).bind fun _ _ => keeps_setWants false

/-- What comes off the stack of operands was checked. -/
theorem keeps_popOperand : Keeps t popOperand (Expr.Checked t) := by
  refine .get_bind fun b hb => ?_
  split
  · exact .throw _
  · next e rest ho =>
    obtain ⟨he, hrest⟩ := List.forall_mem_cons.mp (ho ▸ hb.operands)
    exact .bind (.modify fun _ hc => ⟨hrest, hc.pending⟩) fun _ _ => .pure he

/-- Applying an operator checks its operands. -/
theorem keeps_apply {p : Pending} (hp : p.Checked t) : Keeps t (apply p) fun _ => True := by
  cases p with
  | prefixed op =>
    refine keeps_popOperand.bind fun operand ho => .check fun hn => ?_
    exact keeps_pushOperand (.unary hp (by simpa using hn) ho)
  | infixed op =>
    refine keeps_popOperand.bind fun right hright => keeps_popOperand.bind fun left hleft =>
      .check fun hn => ?_
    have hn : (op.rightName = true → right.name? ≠ none) ∧
        (op.leftName = true → left.name? ≠ none) := by simpa using hn
    split
    · next name ho _ => exact keeps_pushOperand (.member name hp ho hn.2 hleft)
    · exact keeps_pushOperand (.binary hp hn.2 hn.1 hleft hright)
  | group op target items base => exact .throw _

/-- So does applying operators in a row. -/
theorem keeps_applyDue {due : List Pending} (hd : ∀ p ∈ due, p.Checked t) :
    Keeps t (applyDue due) fun _ => True := by
  induction due with
  | nil => exact .pure trivial
  | cons p due ih =>
    obtain ⟨hp, hd⟩ := List.forall_mem_cons.mp hd
    refine .bind (.modify fun _ hb => ⟨hb.operands, ?_⟩) fun _ _ =>
      (keeps_apply hp).bind fun _ _ => ih hd
    exact fun q hq => hb.pending q (List.mem_of_mem_tail hq)

/-- Whatever is due of what waits in a checked builder has been checked. -/
theorem Checked.due {b : ExprBuilder} (hb : b.Checked t) (f : Pending → Bool) :
    ∀ p ∈ b.pending.takeWhile f, p.Checked t :=
  fun p hp => hb.pending p ((List.takeWhile_sublist f).subset hp)

theorem keeps_applyBefore (precedence : Nat) (assoc : Associativity) :
    Keeps t (applyBefore precedence assoc) fun _ => True :=
  .get_bind fun _ hb => keeps_applyDue (hb.due _)

theorem keeps_finishItem (symbol : String) : Keeps t (finishItem t symbol) fun _ => True := by
  refine .get_bind fun b hb => (keeps_applyDue (hb.due _)).bind fun _ _ =>
    keeps_popOperand.bind fun item hitem => .get_bind fun c hc => ?_
  split
  · next op target items base rest hp =>
    obtain ⟨⟨htarget, hitems⟩, hrest⟩ := List.forall_mem_cons.mp (hp ▸ hc.pending)
    have hgroup : (Pending.group op target (items ++ [item]) base).Checked t :=
      ⟨htarget, List.forall_mem_append.mpr ⟨hitems, List.forall_mem_singleton.mpr hitem⟩⟩
    exact .modify fun _ hd => ⟨hd.operands, List.forall_mem_cons.mpr ⟨hgroup, hrest⟩⟩
  · split <;> exact .throw _

/-- The one item of a group has been checked if all of them have. -/
theorem keeps_single (op : Operator) {items : List Expr} (hi : ∀ e ∈ items, e.Checked t) :
    Keeps t (single op items) (Expr.Checked t) := by
  unfold single
  split
  · exact .pure (hi _ List.mem_cons_self)
  · exact .throw _

/-- What a group forms is checked: what it applies to was looked at when it opened, and what becomes
of it depends on the same operation. -/
theorem keeps_formGroup {op : Operator} {target : Option Expr} {items : List Expr} {base : Nat}
    (hg : (Pending.group op target items base).Checked t) :
    Keeps t (formGroup op target items) (Expr.Checked t) := by
  obtain ⟨htarget, hitems⟩ := hg
  unfold formGroup
  split
  · exact (keeps_single op hitems).bind fun key hk => .pure (.index (htarget _ rfl).1 hk)
  · exact .pure (.list hitems)
  · next target hop =>
    obtain ⟨h, hi⟩ := htarget target rfl
    exact .pure (.invoke (hi.resolve_left hop) h hitems)
  · exact keeps_single op hitems

theorem keeps_closeGroup : Keeps t closeGroup fun _ => True := by
  refine .get_bind fun b hb => ?_
  split
  · next op target items base rest hp =>
    obtain ⟨hgroup, hrest⟩ := List.forall_mem_cons.mp (hp ▸ hb.pending)
    exact .bind (.modify fun _ hc => ⟨hc.operands, hrest⟩) fun _ _ =>
      (keeps_formGroup hgroup).bind fun _ he => keeps_acceptOperand he
  · next p rest _ hp =>
    obtain ⟨-, hrest⟩ := List.forall_mem_cons.mp (hp ▸ hb.pending)
    exact .bind (.modify fun _ hc => ⟨hc.operands, hrest⟩) fun _ _ => .throw _
  · exact .throw _

/-- An operator that a symbol is looked up for is one of the table. -/
theorem keeps_pushBeforeOperand (s : String) :
    Keeps t (pushBeforeOperand t s) fun _ => True := by
  unfold pushBeforeOperand
  split
  · next op ht => exact keeps_pushPending (List.mem_of_find?_eq_some ht)
  · split
    · exact .get_bind fun _ _ => keeps_pushPending ⟨nofun, nofun⟩
    · refine .get_bind fun b hb => ?_
      split
      · split
        · exact keeps_closeGroup
        · exact .throw _
      · exact .throw _

/-- Only a group that lists or takes an item opens on anything but a name or a member. -/
theorem keeps_openOn (op : Operator) : Keeps t (openOn op) fun _ => True := by
  refine (keeps_applyBefore _ _).bind fun _ _ => keeps_popOperand.bind fun target ht =>
    .check fun hn => .get_bind fun _ _ => ?_
  have hi : op.operation = .bracket ∨ target.isInvocable = true := by
    by_cases ho : op.operation = .bracket
    · exact .inl ho
    · exact .inr (by simpa [ho] using hn)
  have hgroup : ∀ base, (Pending.group op (some target) [] base).Checked t :=
    fun base => ⟨fun e he => Option.mem_some.mp he ▸ ⟨ht, hi⟩, nofun⟩
  exact (keeps_pushPending (hgroup _)).bind fun _ _ => keeps_setWants true

theorem keeps_closeWith (op : Operator) (symbol : String) :
    Keeps t (closeWith t op symbol) fun _ => True := by
  refine (keeps_finishItem symbol).bind fun _ _ => .get_bind fun _ _ => ?_
  split
  · split
    · exact keeps_closeGroup
    · exact .throw _
  · exact .throw _

theorem keeps_pushAfterOperand (s : String) : Keeps t (pushAfterOperand t s) fun _ => True := by
  unfold pushAfterOperand
  split
  · next op ht =>
    split
    · have hop : (Pending.infixed op).Checked t := List.mem_of_find?_eq_some ht
      exact (keeps_applyBefore _ _).bind fun _ _ => (keeps_pushPending hop).bind fun _ _ =>
        keeps_setWants true
    · exact .throw _
  · split
    · exact keeps_openOn _
    · split
      · exact (keeps_finishItem s).bind fun _ _ => keeps_setWants true
      · split
        · exact keeps_closeWith _ s
        · exact .throw _

/-- Taking a piece, or refusing it, leaves a checked builder. -/
theorem keeps_push (piece : ExprPiece) : Keeps t (push t piece) fun _ => True := by
  refine .get_bind fun b hb => ?_
  cases piece with
  | literal v =>
    dsimp only
    split
    · exact keeps_acceptOperand (.literal v)
    · exact .throw _
  | identifier name =>
    dsimp only
    split
    · exact keeps_acceptOperand (.identifier name)
    · exact .throw _
  | symbol s =>
    dsimp only
    split
    · exact keeps_pushBeforeOperand s
    · exact keeps_pushAfterOperand s

/-- What a builder gives in the end is checked. -/
theorem keeps_close : Keeps t close (Expr.Checked t) := by
  refine .get_bind fun _ _ => .check fun _ => .get_bind fun b hb =>
    (keeps_applyDue hb.pending).bind fun _ _ => keeps_popOperand.bind fun e he =>
      .get_bind fun _ _ => ?_
  split
  · exact .pure he
  · exact .throw _

theorem checked_start (t : OperatorTable) : start.Checked t := ⟨nofun, nofun⟩

/-- The builder after pieces, whether it took them or refused them. -/
def passing (t : OperatorTable) (pieces : List ExprPiece) : ExprBuilder :=
  pieces.foldl (fun b piece => (b.take t piece).2) start

theorem checked_passing (t : OperatorTable) (pieces : List ExprPiece) :
    (passing t pieces).Checked t := by
  refine List.foldlRecOn pieces _ (checked_start t) fun b hb piece _ => ?_
  exact (keeps_push piece b hb).1

/-- Taking all pieces leaves a checked builder. -/
theorem keeps_pushAll (pieces : List ExprPiece) :
    Keeps t (pieces.forM (push t)) fun _ => True := by
  induction pieces with
  | nil => exact .pure trivial
  | cons piece pieces ih => exact (keeps_push piece).bind fun _ _ => ih

end ExprBuilder

namespace Eval

variable {α β : Type} {P : EvalError → Prop}

/-- Whatever an evaluation fails for has the property. -/
def FailsWithin (P : EvalError → Prop) (x : Eval α) : Prop :=
  ∀ host, TagTemplate.FailsWithin P (x.on host).1

namespace FailsWithin

theorem pure (a : α) : FailsWithin P (pure a : Eval α) := fun _ => .ok a

theorem ofExcept {result : Except EvalError α} (hr : TagTemplate.FailsWithin P result) :
    FailsWithin P (Eval.ofExcept result) := fun host => by
  rw [on_ofExcept]
  exact hr

theorem bind {x : Eval α} {f : α → Eval β} (hx : FailsWithin P x) (hf : ∀ a, FailsWithin P (f a)) :
    FailsWithin P (x >>= f) := by
  intro host
  have hfirst := hx host
  rw [on_bind]
  split
  · exact hf _ _
  · next hv =>
    rw [hv] at hfirst
    exact .error (hfirst _ rfl)

theorem invoking {c : Context} (target : Option Value) (name : String) (args : List Value) :
    FailsWithin c.options.Reports (c.invoking target name args) := fun host => by
  rw [on_invoking]
  exact Context.reports_invoke

end FailsWithin

end Eval

namespace Expr

variable {t : OperatorTable} {e : Expr}

/-- What a checked expression is made up of is checked. -/
theorem Checked.of_children (h : e.Checked t) : ∀ child ∈ e.children, child.Checked t := by
  cases h with
  | literal | identifier => exact List.forall_mem_nil _
  | unary _ _ h => exact List.forall_mem_singleton.mpr h
  | binary _ _ _ hl hr => exact List.forall_mem_cons.mpr ⟨hl, List.forall_mem_singleton.mpr hr⟩
  | member _ _ _ _ h => exact List.forall_mem_singleton.mpr h
  | list h => exact h
  | invoke _ h ha => exact List.forall_mem_cons.mpr ⟨h, ha⟩
  | index h hk => exact List.forall_mem_cons.mpr ⟨h, List.forall_mem_singleton.mpr hk⟩

/-- Every step of a checked expression fails with what the context reports. -/
theorem stepRelation_reports (t : OperatorTable) (c : Context) :
    Eval.StepRelation (fun x _ => x.FailsWithin c.options.Reports) (Checked t) c c where
  pure := .pure
  bind := .bind
  resolve _ := .ofExcept Context.reports_resolve
  member _ _ := .ofExcept Context.reports_member
  index _ _ := .ofExcept Context.reports_index
  invoking := .invoking
  isDefined _ := rfl
  dialect := rfl
  children := Checked.of_children
  uninvocable h hi := by
    cases h with
    | invoke htarget =>
      rw [htarget] at hi
      cases hi

/-- A checked expression fails with what its context reports. -/
theorem Checked.reports (c : Context) (h : e.Checked t) :
    (eval c e).FailsWithin c.options.Reports :=
  e.related_eval (stepRelation_reports t c) h

end Expr

namespace ExprBuilder

variable {t : OperatorTable} {pieces : List ExprPiece} {e : Expr}

/-- **Built expressions are evaluated safely.** In every table, what a builder gives in the end,
whether it took every piece or passed over those that it refused, has in all its parts operators of
the table with names where they ask for them, and invokes only names and members. So in every context
it fails only with a name or a member that is not found, each only where the options say that it must
be, or with a member that cannot answer. -/
theorem checked_and_reports_of_build
    (h : build t pieces = .ok e ∨ (passing t pieces).finish = .ok e) :
    e.Checked t ∧ ∀ (c : Context) (host after : Host) (error : EvalError),
      (e.eval c).on host = (.error error, after) → c.options.Reports error := by
  have he : e.Checked t := by
    rcases h with h | h
    · have hb := (keeps_pushAll pieces).bind fun _ _ => keeps_close (t := t)
      exact (hb start (checked_start t)).2 e h
    · exact (keeps_close _ (checked_passing t pieces)).2 e h
  refine ⟨he, fun c host after error hv => he.reports c host error ?_⟩
  rw [hv]

/-- The law at the invocation of a member, `x.f(y)`, with the standard operators. -/
theorem checked_and_reports_of_build_method :
    let pieces : List ExprPiece :=
      [.identifier "x", .symbol ".", .identifier "f", .symbol "(", .identifier "y", .symbol ")"]
    let e : Expr := .invoke (.member (.identifier "x") "f") [.identifier "y"]
    build .standard pieces = .ok e ∧ e.Checked .standard ∧
      ∀ (c : Context) (host after : Host) (error : EvalError),
        (e.eval c).on host = (.error error, after) → c.options.Reports error := by
  intro pieces e
  have hb : build .standard pieces = .ok e := rfl
  exact ⟨hb, checked_and_reports_of_build (.inl hb)⟩

end ExprBuilder

end TagTemplate
