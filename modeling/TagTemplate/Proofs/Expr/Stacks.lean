import Mathlib.Data.List.Induction
import Mathlib.Tactic.TFAE
import TagTemplate.Proofs.Expr.Frame

/-!
# The two stacks of a builder

Every infix operator that waits has its left operand on the other stack. One more operand is there
where an operator has to come next, and none where an operand has to. All pieces keep this balance,
so a builder never misses an operand while pieces are taken, and an expression is incomplete only
where an operand has to come next. What a group notes as its base when it opens is the number of
infix operators below it.
-/

namespace TagTemplate

namespace Pending

/-- Whether the entry is an infix operator. -/
def isInfixed : Pending → Bool
  | .infixed _ => true
  | _ => false

/-- The number of infix operators that wait. -/
def infixes (pending : List Pending) : Nat := pending.countP isInfixed

variable {pending : List Pending}

@[simp] theorem infixes_nil : infixes [] = 0 := rfl

@[simp] theorem infixes_prefixed (op : Operator) :
    infixes (.prefixed op :: pending) = infixes pending :=
  List.countP_cons_of_neg (by simp [isInfixed])

@[simp] theorem infixes_infixed (op : Operator) :
    infixes (.infixed op :: pending) = infixes pending + 1 :=
  List.countP_cons_of_pos rfl

@[simp] theorem infixes_group (op : Operator) (target : Option Expr) (items : List Expr)
    (base : Nat) : infixes (.group op target items base :: pending) = infixes pending :=
  List.countP_cons_of_neg (by simp [isInfixed])

@[simp] theorem infixes_append (due : List Pending) :
    infixes (due ++ pending) = infixes due + infixes pending :=
  List.countP_append

/-- The entry on top counts by itself. -/
theorem infixes_cons (p : Pending) : infixes (p :: pending) = infixes [p] + infixes pending :=
  infixes_append [p]

theorem infixes_takeWhile_le (f : Pending → Bool) :
    infixes (pending.takeWhile f) ≤ infixes pending :=
  (List.takeWhile_sublist f).countP_le

end Pending

open Pending (infixes)

/-- A group at its place among what waits, whatever items it has so far. -/
structure OpenGroup where
  /-- The operator. -/
  op : Operator
  /-- What the group applies to. -/
  target : Option Expr
  /-- The number of operands that were waiting when it opened. -/
  base : Nat
  /-- What waits below it. -/
  below : List Pending

namespace OpenGroup

/-- The entry of the group when it has the given items. -/
def entry (g : OpenGroup) (items : List Expr) : Pending := .group g.op g.target items g.base

/-- The group is open. -/
def IsIn (g : OpenGroup) (pending : List Pending) : Prop :=
  ∃ items, g.entry items :: g.below <:+ pending

variable {g : OpenGroup} {pending : List Pending}

theorem not_isIn_nil : ¬g.IsIn [] := by
  rintro ⟨items, h⟩
  cases List.suffix_nil.mp h

/-- A group is not below itself. -/
theorem not_isIn_below : ¬g.IsIn g.below := by
  rintro ⟨items, h⟩
  have hlength := h.length_le
  rw [List.length_cons] at hlength
  exact Nat.not_succ_le_self _ hlength

/-- The groups that are open with another group on top are this one and those below it. -/
theorem isIn_group_iff {op : Operator} {target : Option Expr} {items : List Expr} {base : Nat} :
    g.IsIn (.group op target items base :: pending) ↔
      g = ⟨op, target, base, pending⟩ ∨ g.IsIn pending := by
  constructor
  · rintro ⟨items', h⟩
    rcases List.suffix_cons_iff.mp h with h | h
    · obtain ⟨gop, gtarget, gbase, gbelow⟩ := g
      cases h
      exact .inl rfl
    · exact .inr ⟨items', h⟩
  · rintro (rfl | ⟨items', h⟩)
    · exact ⟨items, List.suffix_rfl⟩
    · exact ⟨items', h.trans (List.suffix_cons _ _)⟩

/-- An operator on top opens and closes no group. -/
theorem isIn_cons_iff {p : Pending} (hp : p.isOperator = true) :
    g.IsIn (p :: pending) ↔ g.IsIn pending := by
  constructor
  · rintro ⟨items, h⟩
    rcases List.suffix_cons_iff.mp h with h | h
    · cases h
      cases hp
    · exact ⟨items, h⟩
  · rintro ⟨items, h⟩
    exact ⟨items, h.trans (List.suffix_cons _ _)⟩

/-- Operators on top open and close no group. -/
theorem isIn_append_iff {due : List Pending} (hdue : ∀ p ∈ due, p.isOperator = true) :
    g.IsIn (due ++ pending) ↔ g.IsIn pending := by
  induction due with
  | nil => exact Iff.rfl
  | cons p due ih =>
    obtain ⟨hp, hrest⟩ := List.forall_mem_cons.mp hdue
    exact (isIn_cons_iff hp).trans (ih hrest)

end OpenGroup

namespace ExprBuilder

variable {t : OperatorTable} {b between after : ExprBuilder} {piece : ExprPiece}
  {ps : List ExprPiece} {f : Pending → Bool} {g : OpenGroup}

/-! ### The balance of the stacks -/

/-- Each infix operator that waits has its left operand, and there is one more operand exactly where
an operator has to come next. -/
def Balanced (b : ExprBuilder) : Prop :=
  b.operands.length = infixes b.pending + if b.wantsOperand then 0 else 1

namespace Runs

/-- An infix operator leaves one operand less, any other leaves as many. -/
theorem length_of_apply {p : Pending} (h : Runs (apply p) b () after) :
    after.operands.length + infixes [p] = b.operands.length := by
  cases p with
  | prefixed op =>
    obtain ⟨operand, rest, hb, -, rfl⟩ := runs_apply_prefixed_iff.mp h
    simp [hb]
  | infixed op =>
    obtain ⟨right, left, rest, hb, -, -, rfl⟩ := runs_apply_infixed_iff.mp h
    simp [hb]
  | group op target items base => exact absurd h not_runs_apply_group

/-- The operands that go are as many as the infix operators that are applied. -/
theorem length_of_applyDue {due : List Pending} (h : Runs (applyDue due) b () after) :
    after.operands.length + infixes due = b.operands.length := by
  induction due generalizing b with
  | nil =>
    obtain ⟨-, rfl⟩ := runs_pure_iff.mp h
    rfl
  | cons p due ih =>
    obtain ⟨between, happly, hdue⟩ := runs_applyDue_cons_iff.mp h
    have hfirst : between.operands.length + infixes [p] = b.operands.length :=
      happly.length_of_apply
    have hrest := ih hdue
    rw [Pending.infixes_cons]
    omega

/-- Applying what is due of the entries on top keeps the balance. -/
theorem balanced_of_applyDue (h : Runs (applyDue (b.pending.takeWhile f)) b () after)
    (hb : b.Balanced) : after.Balanced := by
  have hlength := h.length_of_applyDue
  have hpending : infixes b.pending = infixes (b.pending.takeWhile f) + infixes after.pending := by
    rw [← Pending.infixes_append, h.takeWhile_append_of_applyDue]
  unfold Balanced at hb ⊢
  rw [h.of_applyDue.2.2]
  omega

end Runs

namespace Balanced

theorem start : start.Balanced := rfl

/-- Where an operator has to come next, an operand is there. -/
theorem length_eq (hb : b.Balanced) (hw : b.wantsOperand = false) :
    b.operands.length = infixes b.pending + 1 := by
  simpa [Balanced, hw] using hb

/-- Where an operand has to come next, no operand is there but those of the infix operators. -/
theorem length_eq_infixes (hb : b.Balanced) (hw : b.wantsOperand = true) :
    b.operands.length = infixes b.pending := by
  simpa [Balanced, hw] using hb

/-- What is due can be applied, and leaves an operand, where an operator has to come next. -/
theorem infixes_takeWhile_lt (hb : b.Balanced) (hw : b.wantsOperand = false) :
    infixes (b.pending.takeWhile f) < b.operands.length := by
  rw [hb.length_eq hw]
  exact Nat.lt_succ_of_le (Pending.infixes_takeWhile_le f)

/-- After what is due has been applied an operator still has to come next. -/
theorem length_of_applyDue (hb : b.Balanced) (hw : b.wantsOperand = false)
    (h : Runs (applyDue (b.pending.takeWhile f)) b () between) :
    between.operands.length = infixes between.pending + 1 :=
  (h.balanced_of_applyDue hb).length_eq (h.of_applyDue.2.2.trans hw)

/-- Every piece keeps the balance. -/
theorem of_taken (hb : b.Balanced) (h : Taken t b piece after) : after.Balanced := by
  cases h with
  | literal hw | identifier hw => simpa [Balanced] using hb.length_eq_infixes hw
  | prefixed hw | opened hw => simpa [Balanced] using hb.length_eq_infixes hw
  | closedEmpty hw hs hp => simpa [Balanced, hp] using hb.length_eq_infixes hw
  | infixed hw hs ho hr => simpa [Balanced] using hb.length_of_applyDue hw hr
  | applied hw hs hr hi => simpa [Balanced, hi] using hb.length_of_applyDue hw hr
  | separated hw hs hr hi hp | closed hw hs hr hi hp =>
    simpa [Balanced, hi, hp] using hb.length_of_applyDue hw hr

end Balanced

/-- The last of several pieces is taken where the others have led. -/
theorem TakesAll.of_concat (h : TakesAll t b (ps ++ [piece]) after) :
    ∃ between, TakesAll t b ps between ∧ Runs (push t piece) between () after := by
  induction ps generalizing b with
  | nil =>
    obtain ⟨_, _, hpush, hnil⟩ := runs_bind_iff.mp h
    obtain ⟨-, rfl⟩ := runs_pure_iff.mp hnil
    exact ⟨b, .nil, hpush⟩
  | cons first ps ih =>
    obtain ⟨_, next, hfirst, hrest⟩ := runs_bind_iff.mp h
    obtain ⟨between, hps, hpush⟩ := ih hrest
    exact ⟨between, runs_bind_iff.mpr ⟨(), next, hfirst, hps⟩, hpush⟩

/-- Pieces keep the balance. -/
theorem TakesAll.balanced (h : TakesAll t b ps after) (hb : b.Balanced) : after.Balanced := by
  induction ps generalizing b with
  | nil =>
    obtain ⟨-, rfl⟩ := runs_pure_iff.mp h
    exact hb
  | cons piece ps ih =>
    obtain ⟨_, between, hpush, hrest⟩ := runs_bind_iff.mp h
    exact ih hrest (hb.of_taken (taken_of_runs_push hpush))

/-! ### Groups since they opened -/

/-- Applying what is due opens and closes no group. -/
theorem isIn_iff_of_applyDue (h : Runs (applyDue (b.pending.takeWhile f)) b () after) :
    g.IsIn after.pending ↔ g.IsIn b.pending := by
  rw [← h.takeWhile_append_of_applyDue, OpenGroup.isIn_append_iff h.of_applyDue.1]

/-- A group that is open after a piece was open before it, or has just opened with as many operands
below it as it notes. -/
theorem isIn_of_taken (h : Taken t b piece after) (hg : g.IsIn after.pending) :
    g.IsIn b.pending ∨ g.base = after.operands.length ∧ after.wantsOperand = true ∧
      after.pending = g.entry [] :: g.below := by
  cases h with
  | literal | identifier => exact .inl hg
  | prefixed => exact .inl ((OpenGroup.isIn_cons_iff rfl).mp hg)
  | opened =>
    rcases OpenGroup.isIn_group_iff.mp hg with rfl | hg
    · exact .inr ⟨rfl, rfl, rfl⟩
    · exact .inl hg
  | closedEmpty hw hs hp => exact .inl (hp ▸ OpenGroup.isIn_group_iff.mpr (.inr hg))
  | infixed hw hs ho hr =>
    exact .inl ((isIn_iff_of_applyDue hr).mp ((OpenGroup.isIn_cons_iff rfl).mp hg))
  | applied hw hs hr =>
    rcases OpenGroup.isIn_group_iff.mp hg with rfl | hg
    · exact .inr ⟨rfl, rfl, rfl⟩
    · exact .inl ((isIn_iff_of_applyDue hr).mp hg)
  | separated hw hs hr hi hp =>
    refine .inl ((isIn_iff_of_applyDue hr).mp ?_)
    rw [hp]
    exact OpenGroup.isIn_group_iff.mpr (OpenGroup.isIn_group_iff.mp hg)
  | closed hw hs hr hi hp =>
    refine .inl ((isIn_iff_of_applyDue hr).mp ?_)
    rw [hp]
    exact OpenGroup.isIn_group_iff.mpr (.inr hg)

/-- Where a piece leaves a group that was open on top and without items, an operator has to come
next. -/
theorem wantsOperand_of_taken (h : Taken t b piece after) (hg : g.IsIn b.pending)
    (htop : after.pending = g.entry [] :: g.below) : after.wantsOperand = false := by
  cases h with
  | literal | identifier | closedEmpty | closed => rfl
  | prefixed | infixed => cases htop
  | opened =>
    obtain ⟨-, hbelow⟩ := List.cons.inj htop
    exact absurd (hbelow ▸ hg) OpenGroup.not_isIn_below
  | applied hw hs hr =>
    obtain ⟨-, hbelow⟩ := List.cons.inj htop
    exact absurd (hbelow ▸ (isIn_iff_of_applyDue hr).mpr hg) OpenGroup.not_isIn_below
  | separated =>
    obtain ⟨hentry, -⟩ := List.cons.inj htop
    simp [OpenGroup.entry] at hentry

/-- The pieces `ps` lead to `b`, where the group is open. The pieces that came since it opened are
those of `steps`, the latest first: each by the builders before and after it. -/
inductive OpenSince (t : OperatorTable) (g : OpenGroup) :
    List ExprPiece → List (ExprBuilder × ExprBuilder) → ExprBuilder → Prop
  /-- The last piece has opened the group. -/
  | opened {ps : List ExprPiece} {b after : ExprBuilder} {piece : ExprPiece}
      (h : TakesAll t start ps b) (hbefore : ¬g.IsIn b.pending)
      (hpush : Runs (push t piece) b () after) (hg : g.IsIn after.pending) :
      OpenSince t g (ps ++ [piece]) [] after
  /-- The last piece has left it open. -/
  | later {ps : List ExprPiece} {steps : List (ExprBuilder × ExprBuilder)} {b after : ExprBuilder}
      {piece : ExprPiece} (h : OpenSince t g ps steps b)
      (hpush : Runs (push t piece) b () after) (hg : g.IsIn after.pending) :
      OpenSince t g (ps ++ [piece]) ((b, after) :: steps) after

/-- Every open group has opened at some piece. -/
theorem exists_openSince (h : TakesAll t start ps b) (hg : g.IsIn b.pending) :
    ∃ steps, OpenSince t g ps steps b := by
  induction ps using List.reverseRecOn generalizing b with
  | nil =>
    obtain ⟨-, rfl⟩ := runs_pure_iff.mp h
    exact absurd hg OpenGroup.not_isIn_nil
  | append_singleton ps piece ih =>
    obtain ⟨before, hps, hpush⟩ := h.of_concat
    by_cases hbefore : g.IsIn before.pending
    · obtain ⟨steps, hsince⟩ := ih hps hbefore
      exact ⟨_, .later hsince hpush hg⟩
    · exact ⟨[], .opened hps hbefore hpush hg⟩

namespace OpenSince

variable {steps : List (ExprBuilder × ExprBuilder)}

/-- The group is open. -/
theorem isIn (h : OpenSince t g ps steps b) : g.IsIn b.pending := by
  cases h with
  | opened _ _ _ hg | later _ _ hg => exact hg

/-- The base of a group is the number of infix operators below it. -/
theorem base_eq (h : OpenSince t g ps steps b) : g.base = infixes g.below := by
  induction h with
  | opened h hbefore hpush hg =>
    have htaken := taken_of_runs_push hpush
    have hbalanced := (h.balanced .start).of_taken htaken
    obtain ⟨hbase, hw, htop⟩ := (isIn_of_taken htaken hg).resolve_left hbefore
    rw [hbase, hbalanced.length_eq_infixes hw, htop]
    exact Pending.infixes_group _ _ _ _
  | later _ _ _ ih => exact ih

/-- If no piece since a group opened has left more operands than it found, there are no more than
when it opened. -/
theorem length_le_base (h : OpenSince t g ps steps b)
    (hsteps : ∀ step ∈ steps, step.2.operands.length ≤ step.1.operands.length) :
    b.operands.length ≤ g.base := by
  induction h with
  | opened _ hbefore hpush hg =>
    obtain ⟨hbase, -⟩ := (isIn_of_taken (taken_of_runs_push hpush) hg).resolve_left hbefore
    exact Nat.le_of_eq hbase.symm
  | later _ _ _ ih =>
    obtain ⟨hstep, hrest⟩ := List.forall_mem_cons.mp hsteps
    exact Nat.le_trans hstep (ih hrest)

/-- A group on top without items notes the number of operands exactly if no piece has come since it
opened, and also exactly if no piece since then has left more operands than it found. Whatever
counts as pushing an operand lies between these two. -/
theorem tfae_of_top (h : OpenSince t g ps steps b) (hb : b.Balanced)
    (htop : b.pending = g.entry [] :: g.below) :
    [g.base = b.operands.length, steps = [],
      ∀ step ∈ steps, step.2.operands.length ≤ step.1.operands.length].TFAE := by
  have hinfixes : infixes b.pending = g.base := by
    rw [htop, h.base_eq]
    exact Pending.infixes_group _ _ _ _
  tfae_have 1 → 2 := by
    intro hbase
    cases h with
    | opened => rfl
    | later hsince hpush =>
      have hw := wantsOperand_of_taken (taken_of_runs_push hpush) hsince.isIn htop
      have hlength := hb.length_eq hw
      omega
  tfae_have 2 → 3 := by
    rintro rfl
    exact fun step hstep => absurd hstep List.not_mem_nil
  tfae_have 3 → 1 := by
    intro hsteps
    have hle := h.length_le_base hsteps
    unfold Balanced at hb
    omega
  tfae_finish

end OpenSince

/-! ### No operand is missed -/

section Supplied

variable {α β : Type}

/-- The step does not fail for want of an operand. -/
def Supplied (x : Step α) (b : ExprBuilder) : Prop := (x.run.run b).1 ≠ .error .incomplete

namespace Supplied

theorem pure (a : α) : Supplied (pure a) b := by
  intro h
  cases h

theorem modify (f : ExprBuilder → ExprBuilder) : Supplied (modify f) b := by
  intro h
  cases h

theorem throw {error : ExprError} (h : error ≠ .incomplete) :
    Supplied (throw error : Step α) b := by
  rintro ⟨⟩
  exact h rfl

/-- Steps in turn are supplied if each is where those before it have led. -/
theorem bind {x : Step α} {f : α → Step β} (hx : Supplied x b)
    (hf : ∀ a between, Runs x b a between → Supplied (f a) between) : Supplied (x >>= f) b := by
  unfold Supplied at hx ⊢
  rw [ExceptT.run_bind, StateT.run_bind]
  cases hr : x.run.run b with
  | mk result between =>
    rw [hr] at hx
    cases result with
    | error error => exact fun he => hx (by cases he; rfl)
    | ok a => exact hf a between hr

/-- A check fails for a reason of its own or lets the step go on. -/
theorem check {c : Prop} [Decidable c] {error : ExprError} {x : Step α}
    (herror : error ≠ .incomplete) (hx : Supplied x b) :
    Supplied (if c then MonadExcept.throw error else x) b := by
  split
  · exact throw herror
  · exact hx

/-- A step that begins by looking at the builder is supplied if what it then does is. -/
theorem get_bind {f : ExprBuilder → Step β} (h : Supplied (f b) b) : Supplied (get >>= f) b := h

end Supplied

theorem supplied_pushOperand (e : Expr) : Supplied (pushOperand e) b := .modify _

theorem supplied_pushPending (p : Pending) : Supplied (pushPending p) b := .modify _

theorem supplied_setWants (wants : Bool) : Supplied (setWants wants) b := .modify _

theorem supplied_acceptOperand (e : Expr) : Supplied (acceptOperand e) b :=
  (supplied_pushOperand e).bind fun _ _ _ => supplied_setWants false

/-- An operand is taken where there is one. -/
theorem supplied_popOperand (h : 0 < b.operands.length) : Supplied popOperand b := by
  refine .get_bind ?_
  split
  · next hnil => simp [hnil] at h
  · exact (Supplied.modify _).bind fun _ _ _ => .pure _

/-- An operator is applied where there are more operands than it has on its left. -/
theorem supplied_apply {p : Pending} (h : infixes [p] < b.operands.length) :
    Supplied (apply p) b := by
  cases p with
  | prefixed op =>
    refine (supplied_popOperand (by simpa using h)).bind fun operand _ _ =>
      .check (by simp) (supplied_pushOperand _)
  | infixed op =>
    have htwo : 1 < b.operands.length := by simpa using h
    refine (supplied_popOperand (by omega)).bind fun right between hpop => ?_
    obtain ⟨rest, hrest, rfl⟩ := runs_popOperand_iff.mp hpop
    rw [hrest, List.length_cons] at htwo
    refine (supplied_popOperand (by dsimp only; omega)).bind fun left _ _ =>
      .check (by simp) ?_
    split <;> exact supplied_pushOperand _
  | group op target items base => exact .throw (by simp)

/-- What is due is applied where there are more operands than infix operators are due. -/
theorem supplied_applyDue {due : List Pending} (h : infixes due < b.operands.length) :
    Supplied (applyDue due) b := by
  induction due generalizing b with
  | nil => exact .pure ()
  | cons p due ih =>
    rw [Pending.infixes_cons] at h
    refine (Supplied.modify _).bind fun _ popped hpop => ?_
    obtain rfl := runs_modify_iff.mp hpop
    refine (supplied_apply (by dsimp only; omega)).bind fun _ between happly => ih ?_
    have hlength : between.operands.length + infixes [p] = b.operands.length :=
      happly.length_of_apply
    omega

theorem supplied_single (op : Operator) (items : List Expr) : Supplied (single op items) b := by
  unfold single
  split
  · exact .pure _
  · exact .throw (by simp)

theorem supplied_formGroup (op : Operator) (target : Option Expr) (items : List Expr) :
    Supplied (formGroup op target items) b := by
  unfold formGroup
  split
  · exact (supplied_single op items).bind fun _ _ _ => .pure _
  · exact .pure _
  · exact .pure _
  · exact supplied_single op items

/-- A group is closed where there is one on top. -/
theorem supplied_closeGroup {op : Operator} {target : Option Expr} {items : List Expr} {base : Nat}
    {below : List Pending} (hp : b.pending = .group op target items base :: below) :
    Supplied closeGroup b := by
  refine .get_bind ?_
  rw [hp]
  exact (Supplied.modify _).bind fun _ _ _ =>
    (supplied_formGroup op target items).bind fun e _ _ => supplied_acceptOperand e

theorem supplied_misplaced (s : String) : Supplied (throw (misplaced t s) : Step α) b := by
  refine .throw ?_
  unfold misplaced
  split <;> simp

/-- Where an operand has to come next, no symbol takes one off the stack. -/
theorem supplied_pushBeforeOperand (s : String) : Supplied (pushBeforeOperand t s) b := by
  unfold pushBeforeOperand
  split
  · exact supplied_pushPending _
  · split
    · exact .get_bind (supplied_pushPending _)
    · refine .get_bind ?_
      split
      · next hp =>
        split
        · exact supplied_closeGroup hp
        · exact supplied_misplaced s
      · exact supplied_misplaced s

section WantsOperator

variable (hb : b.Balanced) (hw : b.wantsOperand = false)

include hb hw

theorem supplied_applyBefore (precedence : Nat) (assoc : Associativity) :
    Supplied (applyBefore precedence assoc) b :=
  .get_bind (supplied_applyDue (hb.infixes_takeWhile_lt hw))

/-- The item that ends is there. -/
theorem supplied_finishItem (s : String) : Supplied (finishItem t s) b := by
  refine .get_bind ((supplied_applyDue (hb.infixes_takeWhile_lt hw)).bind fun _ between hdue => ?_)
  have hlength := hb.length_of_applyDue hw hdue
  refine (supplied_popOperand (by omega)).bind fun item _ _ => .get_bind ?_
  split
  · exact .modify _
  · split <;> exact .throw (by simp)

/-- What a group applies to is there. -/
theorem supplied_openOn (op : Operator) : Supplied (openOn op) b := by
  refine (supplied_applyBefore hb hw op.precedence .left).bind fun _ between hbefore => ?_
  have hlength := hb.length_of_applyDue hw (runs_applyBefore_iff.mp hbefore)
  refine (supplied_popOperand (by omega)).bind fun target _ _ =>
    .check (by simp) (.get_bind ?_)
  exact (supplied_pushPending _).bind fun _ _ _ => supplied_setWants true

theorem supplied_closeWith (op : Operator) (s : String) : Supplied (closeWith t op s) b := by
  refine (supplied_finishItem hb hw s).bind fun _ between _ => .get_bind ?_
  split
  · next hp =>
    split
    · exact supplied_closeGroup hp
    · exact .throw (by simp)
  · exact .throw (by simp)

/-- Where an operator has to come next, every symbol finds the operands that it needs. -/
theorem supplied_pushAfterOperand (s : String) : Supplied (pushAfterOperand t s) b := by
  unfold pushAfterOperand
  split
  · next op _ =>
    split
    · next assoc _ =>
      exact (supplied_applyBefore hb hw op.precedence assoc).bind fun _ _ _ =>
        (supplied_pushPending _).bind fun _ _ _ => supplied_setWants true
    · exact .throw (by simp)
  · split
    · exact supplied_openOn hb hw _
    · split
      · exact (supplied_finishItem hb hw s).bind fun _ _ _ => supplied_setWants true
      · split
        · exact supplied_closeWith hb hw _ s
        · exact supplied_misplaced s

/-- Closing finds the operands of all that waits, and one expression is left. -/
theorem supplied_close : Supplied close b := by
  have hlength := hb.length_eq hw
  refine .get_bind ?_
  rw [hw]
  refine .get_bind ((supplied_applyDue (by omega)).bind fun _ between hdue => ?_)
  have hdone := hdue.length_of_applyDue
  refine (supplied_popOperand (by omega)).bind fun e _ hpop => .get_bind ?_
  obtain ⟨rest, hrest, rfl⟩ := runs_popOperand_iff.mp hpop
  rw [hrest, List.length_cons] at hdone
  have hnone : rest = [] := List.length_eq_zero_iff.mp (by omega)
  subst hnone
  exact .pure e

end WantsOperator

/-- No piece misses an operand. -/
theorem supplied_push (hb : b.Balanced) (piece : ExprPiece) : Supplied (push t piece) b := by
  refine .get_bind ?_
  cases hw : b.wantsOperand with
  | true => cases piece with
    | literal v => exact supplied_acceptOperand _
    | identifier name => exact supplied_acceptOperand _
    | symbol s => exact supplied_pushBeforeOperand s
  | false => cases piece with
    | literal v => exact .throw (by simp)
    | identifier name => exact .throw (by simp)
    | symbol s => exact supplied_pushAfterOperand hb hw s

/-- An expression is incomplete exactly where an operand has to come next. -/
theorem finish_eq_incomplete_iff (hb : b.Balanced) :
    b.finish = .error .incomplete ↔ b.wantsOperand = true := by
  constructor
  · intro hfinish
    cases hw : b.wantsOperand with
    | true => rfl
    | false => exact absurd hfinish (supplied_close hb hw)
  · intro hw
    have hclose : close.run.run b = (.error .incomplete, b) := by
      change (if b.wantsOperand then _ else _ : Step Expr).run.run b = _
      rw [if_pos hw]
      rfl
    exact congrArg Prod.fst hclose

end Supplied

/-- **The two stacks stay in balance.** After any pieces that are all taken, there is an operand for
each infix operator that waits, and one more exactly where an operator has to come next; and the base
of every open group is the number of infix operators below it. For a group on top without items this
base is the number of operands exactly if no piece has pushed an operand since it opened, which is so
only right after it. Hence no further piece fails for want of an operand, and the expression is
incomplete exactly where an operand has to come next. -/
theorem stacks_of_takesAll (h : TakesAll t start ps b) :
    b.operands.length = infixes b.pending + (if b.wantsOperand then 0 else 1) ∧
    (∀ op target items base below, Pending.group op target items base :: below <:+ b.pending →
      base = infixes below) ∧
    (∀ op target base below, b.pending = .group op target [] base :: below →
      (∃ steps, OpenSince t ⟨op, target, base, below⟩ ps steps b) ∧
      ∀ steps, OpenSince t ⟨op, target, base, below⟩ ps steps b →
        [base = b.operands.length, steps = [],
          ∀ step ∈ steps, step.2.operands.length ≤ step.1.operands.length].TFAE) ∧
    (∀ piece, (b.take t piece).1 ≠ .error .incomplete) ∧
    (b.finish = .error .incomplete ↔ b.wantsOperand = true) := by
  have hb : b.Balanced := h.balanced .start
  refine ⟨hb, ?_, ?_, supplied_push hb, finish_eq_incomplete_iff hb⟩
  · intro op target items base below hsuffix
    have hg : OpenGroup.IsIn ⟨op, target, base, below⟩ b.pending := ⟨items, hsuffix⟩
    obtain ⟨steps, hsince⟩ := exists_openSince h hg
    exact hsince.base_eq
  · intro op target base below htop
    have hg : OpenGroup.IsIn ⟨op, target, base, below⟩ b.pending := ⟨[], htop ▸ List.suffix_rfl⟩
    exact ⟨exists_openSince h hg, fun steps hsince => hsince.tfae_of_top hb htop⟩

/-- The law after `f(a+[`: the list has opened right above the operator, with one operand below. -/
theorem stacks_of_takesAll_nested :
    let list := Operator.groupOp "[" "]" 0 .bracket
    let call := Operator.groupOp "(" ")" 0 .parenthesis
    let below : List Pending := [.infixed (Operator.infixOp "+" 3 .left .add),
      .group call (some (.identifier "f")) [] 0]
    let b : ExprBuilder := ⟨[.identifier "a"], .group list none [] 1 :: below, true⟩
    TakesAll .standard start
      [.identifier "f", .symbol "(", .identifier "a", .symbol "+", .symbol "["] b ∧
    infixes below = 1 ∧ b.operands.length = 1 ∧ b.finish = .error .incomplete ∧
    (b.take .standard (.symbol "]")).1 ≠ .error .incomplete ∧
    ∃ steps, OpenSince .standard ⟨list, none, 1, below⟩
      [.identifier "f", .symbol "(", .identifier "a", .symbol "+", .symbol "["] steps b ∧
      steps = [] := by
  intro list call below b
  have htaken : TakesAll .standard start
      [.identifier "f", .symbol "(", .identifier "a", .symbol "+", .symbol "["] b := rfl
  obtain ⟨hlength, hbases, hgroups, hpieces, hfinish⟩ := stacks_of_takesAll htaken
  obtain ⟨⟨steps, hsince⟩, hiff⟩ := hgroups list none 1 below rfl
  have hbase : 1 = infixes below := hbases list none [] 1 below List.suffix_rfl
  have hopened : 1 = b.operands.length ↔ steps = [] := (hiff steps hsince).out 0 1
  exact ⟨htaken, hbase.symm, hlength, hfinish.mpr rfl, hpieces _, steps, hsince, hopened.mp rfl⟩

end ExprBuilder

end TagTemplate
