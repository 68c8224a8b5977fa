import TagTemplate.Proofs.Expr.Spelling

/-!
# Pieces above other operands and entries

What a builder does with a piece it also does with more operands below its own and more entries
below its own, as long as no operator waits on top of those entries: an operator is never applied
beyond an open group. So the pieces of an expression run on top of an open group as they run by
themselves.
-/

namespace TagTemplate

namespace Pending

/-- The entry with `n` more operands below those that were waiting when it came. -/
def raised (n : Nat) : Pending → Pending
  | .group op target items base => .group op target items (base + n)
  | p => p

@[simp] theorem raised_group (n : Nat) (op : Operator) (target : Option Expr) (items : List Expr)
    (base : Nat) :
    (group op target items base).raised n = .group op target items (base + n) := rfl

@[simp] theorem isOperator_raised (n : Nat) (p : Pending) :
    (p.raised n).isOperator = p.isOperator := by
  cases p <;> rfl

@[simp] theorem reducesBefore_raised (n : Nat) (p : Pending) (precedence : Nat)
    (assoc : Associativity) :
    (p.raised n).reducesBefore precedence assoc = p.reducesBefore precedence assoc := by
  cases p <;> rfl

/-- If nothing is due of the entries below, what is due is due of the entries above them. -/
theorem takeWhile_raised {f : Pending → Bool} {n : Nat} {below : List Pending}
    (hf : ∀ p, f (p.raised n) = f p) (hb : below.takeWhile f = []) (pending : List Pending) :
    (pending.map (raised n) ++ below).takeWhile f = (pending.takeWhile f).map (raised n) := by
  induction pending with
  | nil => exact hb
  | cons p pending ih =>
    rw [List.map_cons, List.cons_append, List.takeWhile_cons, List.takeWhile_cons, hf, ih]
    split <;> rfl

end Pending

namespace ExprBuilder

/-- The builder on top of more operands and entries. -/
def above (b : ExprBuilder) (operands : List Expr) (pending : List Pending) : ExprBuilder :=
  ⟨b.operands ++ operands, b.pending.map (Pending.raised operands.length) ++ pending,
    b.wantsOperand⟩

@[simp] theorem above_operands (b : ExprBuilder) (operands : List Expr) (pending : List Pending) :
    (b.above operands pending).operands = b.operands ++ operands := rfl

@[simp] theorem above_pending (b : ExprBuilder) (operands : List Expr) (pending : List Pending) :
    (b.above operands pending).pending =
      b.pending.map (Pending.raised operands.length) ++ pending := rfl

@[simp] theorem above_wantsOperand (b : ExprBuilder) (operands : List Expr)
    (pending : List Pending) : (b.above operands pending).wantsOperand = b.wantsOperand := rfl

variable {t : OperatorTable} {b after : ExprBuilder} {operands : List Expr}
  {pending : List Pending} {s : String}

namespace Runs

/-- What is applied is an operator, and changes no more than the operands. -/
theorem of_apply {p : Pending} (h : Runs (apply p) b () after) :
    p.isOperator = true ∧ after.pending = b.pending ∧ after.wantsOperand = b.wantsOperand := by
  cases p with
  | prefixed op =>
    obtain ⟨operand, rest, -, -, rfl⟩ := runs_apply_prefixed_iff.mp h
    exact ⟨rfl, rfl, rfl⟩
  | infixed op =>
    obtain ⟨right, left, rest, -, -, -, rfl⟩ := runs_apply_infixed_iff.mp h
    exact ⟨rfl, rfl, rfl⟩
  | group op target items base => exact absurd h not_runs_apply_group

/-- Entries that are due are operators, and come off the stack. -/
theorem of_applyDue {due : List Pending} (h : Runs (applyDue due) b () after) :
    (∀ p ∈ due, p.isOperator = true) ∧ after.pending = b.pending.drop due.length ∧
      after.wantsOperand = b.wantsOperand := by
  induction due generalizing b with
  | nil =>
    obtain ⟨-, rfl⟩ := runs_pure_iff.mp h
    exact ⟨fun p hp => absurd hp List.not_mem_nil, rfl, rfl⟩
  | cons p due ih =>
    obtain ⟨between, happly, hdue⟩ := runs_applyDue_cons_iff.mp h
    obtain ⟨hp, hpending, hwants⟩ := happly.of_apply
    obtain ⟨hall, hrest, hw⟩ := ih hdue
    refine ⟨List.forall_mem_cons.mpr ⟨hp, hall⟩, ?_, hw.trans hwants⟩
    rw [hrest, hpending, List.drop_tail, List.length_cons]

/-- What is due of the entries on top comes off the stack and leaves the others. -/
theorem takeWhile_append_of_applyDue {f : Pending → Bool}
    (h : Runs (applyDue (b.pending.takeWhile f)) b () after) :
    b.pending.takeWhile f ++ after.pending = b.pending := by
  rw [h.of_applyDue.2.1]
  exact List.prefix_iff_eq_append.mp (List.takeWhile_prefix f)

/-- An operator applies to the operands on top, whatever is below them. -/
theorem apply_above {p : Pending} (h : Runs (apply p) b () after) (operands : List Expr)
    (pending : List Pending) :
    Runs (apply (p.raised operands.length)) (b.above operands pending) ()
      (after.above operands pending) := by
  cases p with
  | prefixed op =>
    obtain ⟨operand, rest, hb, hn, rfl⟩ := runs_apply_prefixed_iff.mp h
    exact runs_apply_prefixed_iff.mpr ⟨operand, rest ++ operands, by simp [above, hb], hn, rfl⟩
  | infixed op =>
    obtain ⟨right, left, rest, hb, hr, hl, rfl⟩ := runs_apply_infixed_iff.mp h
    exact runs_apply_infixed_iff.mpr
      ⟨right, left, rest ++ operands, by simp [above, hb], hr, hl, rfl⟩
  | group op target items base => exact absurd h not_runs_apply_group

/-- Entries on top are applied whatever is below them. -/
theorem applyDue_above {due rest : List Pending} (hb : b.pending = due ++ rest)
    (h : Runs (applyDue due) b () after) (operands : List Expr) (pending : List Pending) :
    Runs (applyDue (due.map (Pending.raised operands.length))) (b.above operands pending) ()
      (after.above operands pending) := by
  induction due generalizing b with
  | nil =>
    obtain ⟨-, rfl⟩ := runs_pure_iff.mp h
    exact runs_pure_iff.mpr ⟨rfl, rfl⟩
  | cons p due ih =>
    obtain ⟨between, happly, hdue⟩ := runs_applyDue_cons_iff.mp h
    have hbetween : between.pending = due ++ rest := by
      rw [happly.of_apply.2.1, hb]
      rfl
    have habove := happly.apply_above operands pending
    refine runs_applyDue_cons_iff.mpr ⟨between.above operands pending, ?_, ih hbetween hdue⟩
    simp only [above, hb] at habove ⊢
    exact habove

/-- What is due of the entries on top is applied whatever is below them, if nothing below is due. -/
theorem applyDue_takeWhile_above {f : Pending → Bool}
    (h : Runs (applyDue (b.pending.takeWhile f)) b () after)
    (hf : ∀ p, f (p.raised operands.length) = f p) (hp : pending.takeWhile f = []) :
    Runs (applyDue ((b.above operands pending).pending.takeWhile f)) (b.above operands pending) ()
      (after.above operands pending) := by
  have hdue : (b.above operands pending).pending.takeWhile f =
      (b.pending.takeWhile f).map (Pending.raised operands.length) :=
    Pending.takeWhile_raised hf hp b.pending
  rw [hdue]
  exact h.applyDue_above List.takeWhile_append_dropWhile.symm operands pending

section Settled

variable (hp : Pending.Settled pending)

include hp

/-- An operator that comes in applies what binds before it, whatever is below. -/
theorem applyBefore_above {precedence : Nat} {assoc : Associativity}
    (h : Runs (applyBefore precedence assoc) b () after) (operands : List Expr) :
    Runs (applyBefore precedence assoc) (b.above operands pending) ()
      (after.above operands pending) :=
  runs_applyBefore_iff.mpr <| (runs_applyBefore_iff.mp h).applyDue_takeWhile_above
    (fun p => Pending.reducesBefore_raised _ p precedence assoc)
    (hp.takeWhile_reducesBefore precedence assoc)

/-- The end of an item applies the operators on top, whatever is below the group. -/
theorem applyOperators_above (h : Runs (applyDue (b.pending.takeWhile Pending.isOperator)) b ()
      after) (operands : List Expr) :
    Runs (applyDue ((b.above operands pending).pending.takeWhile Pending.isOperator))
      (b.above operands pending) () (after.above operands pending) :=
  h.applyDue_takeWhile_above (fun p => Pending.isOperator_raised _ p) hp.takeWhile_isOperator

/-- An item ends whatever is below its group. -/
theorem finishItem_above (h : Runs (finishItem t s) b () after) (operands : List Expr) :
    Runs (finishItem t s) (b.above operands pending) () (after.above operands pending) := by
  obtain ⟨between, item, rest, op, target, items, base, below, hd, hi, hg, rfl⟩ :=
    runs_finishItem_iff.mp h
  refine runs_finishItem_iff.mpr ⟨between.above operands pending, item, rest ++ operands, op,
    target, items, base + operands.length, below.map (Pending.raised operands.length) ++ pending,
    hd.applyOperators_above hp operands, by simp [hi], by simp [hg], ?_⟩
  simp [above]

/-- A group opens on the operand before it, whatever is below that. -/
theorem openOn_above {op : Operator} (h : Runs (openOn op) b () after) (operands : List Expr) :
    Runs (openOn op) (b.above operands pending) () (after.above operands pending) := by
  obtain ⟨between, target, rest, hd, hi, hc, rfl⟩ := runs_openOn_iff.mp h
  refine runs_openOn_iff.mpr ⟨between.above operands pending, target, rest ++ operands,
    hd.applyBefore_above hp operands, by simp [hi], hc, ?_⟩
  simp [above]

omit hp in
/-- A group closes whatever is below it. -/
theorem closeGroup_above (h : Runs closeGroup b () after) (operands : List Expr)
    (pending : List Pending) :
    Runs closeGroup (b.above operands pending) () (after.above operands pending) := by
  obtain ⟨op, target, items, base, below, e, hg, he, rfl⟩ := runs_closeGroup_iff.mp h
  exact runs_closeGroup_iff.mpr ⟨op, target, items, base + operands.length,
    below.map (Pending.raised operands.length) ++ pending, e, by simp [hg], he, rfl⟩

/-- The symbol that closes a group ends its last item and closes it, whatever is below. -/
theorem closeWith_above {op : Operator} (h : Runs (closeWith t op s) b () after)
    (operands : List Expr) :
    Runs (closeWith t op s) (b.above operands pending) () (after.above operands pending) := by
  obtain ⟨between, item, rest, target, items, base, below, e, hd, hi, hg, he, rfl⟩ :=
    runs_closeWith_iff.mp h
  exact runs_closeWith_iff.mpr ⟨between.above operands pending, item, rest ++ operands, target,
    items, base + operands.length, below.map (Pending.raised operands.length) ++ pending, e,
    hd.applyOperators_above hp operands, by simp [hi], by simp [hg], he, rfl⟩

omit hp in
/-- Where an operand is expected a symbol is read whatever is below. -/
theorem pushBeforeOperand_above (h : Runs (pushBeforeOperand t s) b () after)
    (operands : List Expr) (pending : List Pending) :
    Runs (pushBeforeOperand t s) (b.above operands pending) () (after.above operands pending) := by
  unfold pushBeforeOperand at h ⊢
  cases hprefixed : t.prefixed? s with
  | some op =>
    simp only [hprefixed] at h ⊢
    rw [runs_pushPending_iff.mp h]
    exact runs_pushPending_iff.mpr rfl
  | none =>
    cases hopened : t.opened? s with
    | some op =>
      simp only [hprefixed, hopened, runs_get_bind_iff] at h ⊢
      rw [runs_pushPending_iff.mp h]
      refine runs_pushPending_iff.mpr ?_
      simp [above]
    | none =>
      simp only [hprefixed, hopened, runs_get_bind_iff] at h ⊢
      split at h
      · next op opener target items base below hclosed hg =>
        rw [runs_guard_iff not_runs_throw] at h
        obtain ⟨⟨hopener, hitems, hbase⟩, hclose⟩ := h
        simp only [hclosed, above_pending, hg, List.map_cons, Pending.raised_group,
          List.cons_append, above_operands, List.length_append]
        rw [runs_guard_iff not_runs_throw]
        exact ⟨⟨hopener, hitems, by rw [hbase]⟩, hclose.closeGroup_above operands pending⟩
      · exact absurd h not_runs_throw

/-- Where an operator is expected a symbol is read whatever is below. -/
theorem pushAfterOperand_above (h : Runs (pushAfterOperand t s) b () after)
    (operands : List Expr) :
    Runs (pushAfterOperand t s) (b.above operands pending) () (after.above operands pending) := by
  unfold pushAfterOperand at h ⊢
  split at h
  · split at h
    · obtain ⟨_, between, hd, h⟩ := runs_bind_iff.mp h
      obtain ⟨_, _, hpush, h⟩ := runs_bind_iff.mp h
      rw [runs_setWants_iff.mp h, runs_pushPending_iff.mp hpush]
      exact runs_bind_iff.mpr ⟨(), _, hd.applyBefore_above hp operands,
        runs_bind_iff.mpr ⟨(), _, runs_pushPending_iff.mpr rfl, runs_setWants_iff.mpr rfl⟩⟩
    · exact absurd h not_runs_throw
  · split at h
    · exact h.openOn_above hp operands
    · split at h
      · next hseparator =>
        rw [if_pos hseparator]
        obtain ⟨_, _, hfinish, h⟩ := runs_bind_iff.mp h
        rw [runs_setWants_iff.mp h]
        exact runs_bind_iff.mpr ⟨(), _, hfinish.finishItem_above hp operands,
          runs_setWants_iff.mpr rfl⟩
      · next hseparator =>
        rw [if_neg hseparator]
        split at h
        · exact h.closeWith_above hp operands
        · exact absurd h not_runs_throw

/-- A piece is taken whatever is below. -/
theorem push_above {piece : ExprPiece} (h : Runs (push t piece) b () after)
    (operands : List Expr) :
    Runs (push t piece) (b.above operands pending) () (after.above operands pending) := by
  have hwants : (b.above operands pending).wantsOperand = b.wantsOperand := rfl
  simp only [push, runs_get_bind_iff, hwants] at h ⊢
  cases piece with
  | literal v | identifier name =>
    dsimp only at h ⊢
    rw [runs_guard_iff not_runs_throw] at h ⊢
    rw [runs_acceptOperand_iff.mp h.2]
    exact ⟨h.1, runs_acceptOperand_iff.mpr rfl⟩
  | symbol s =>
    dsimp only at h ⊢
    split
    · next hw =>
      rw [if_pos hw] at h
      exact h.pushBeforeOperand_above operands pending
    · next hw =>
      rw [if_neg hw] at h
      exact h.pushAfterOperand_above hp operands

end Settled

end Runs

/-- Pieces are taken on top of other operands and entries as they are taken by themselves, if no
operator waits on top of those entries. -/
theorem TakesAll.above {ps : List ExprPiece} (hp : Pending.Settled pending)
    (h : TakesAll t b ps after) (operands : List Expr) :
    TakesAll t (b.above operands pending) ps (after.above operands pending) := by
  induction ps generalizing b with
  | nil =>
    obtain ⟨-, rfl⟩ := runs_pure_iff.mp h
    exact .nil
  | cons piece ps ih =>
    obtain ⟨_, between, hpush, hrest⟩ := runs_bind_iff.mp h
    exact runs_bind_iff.mpr ⟨(), _, hpush.push_above hp operands, ih hrest⟩

end ExprBuilder

end TagTemplate
