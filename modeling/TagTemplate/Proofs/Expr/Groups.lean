import TagTemplate.Proofs.Expr.Frame
import TagTemplate.Proofs.Operator.Registration

/-!
# Groups of registered operators

In a table that is filled by registration, a group whose two symbols differ encloses its items: its
symbols around them give the expression that the group forms, wherever an operand is expected and
after any operand that the group applies to. A group that closes with the symbol that opens it never
closes: its symbol opens another one each time, and nothing else closes a group, so no expression
has this symbol in it.
-/

namespace TagTemplate

namespace Pending

/-- The operator of an open group. -/
def group? : Pending → Option Operator
  | .group op _ _ _ => some op
  | _ => none

/-- An operator that waits is no open group. -/
theorem group?_eq_none {p : Pending} (h : p.isOperator = true) : p.group? = none := by
  cases p with
  | prefixed op | infixed op => rfl
  | group op target items base => cases h

end Pending

namespace OperatorTable

variable {t : OperatorTable} {s close : String} {op op' : Operator}

/-- A symbol closes a group of which it is the closing symbol. -/
theorem eq_of_closed? (hshape : op.shape = .group close) (hs : t.closed? s = some op) :
    s = close := by
  rw [← reads?_closing] at hs
  have hu := (of_reads? hs).2
  unfold Operator.uses at hu
  simpa [hshape] using hu

namespace Coherent

/-- The symbol that closes a group opens none if it is not the one that opens this group. -/
theorem opened?_eq_none (h : t.Coherent) (hs : t.closed? close = some op)
    (hne : close ≠ op.symbol) : t.opened? close = none := by
  rw [← reads?_closing] at hs
  rw [← reads?_opening]
  cases hr : t.reads? .opening close with
  | none => rfl
  | some op' =>
    obtain ⟨hm, hu⟩ := of_reads? hs
    obtain ⟨hm', hu'⟩ := of_reads? hr
    obtain ⟨rfl, hrole | hshape⟩ := h op hm op' hm' _ hu _ hu' rfl rfl
    · cases hrole
    · unfold Operator.uses at hu
      simp [hshape] at hu
      exact absurd hu hne

end Coherent

end OperatorTable

namespace ExprBuilder

open OperatorTable TagTemplate.Expr

variable {t : OperatorTable} {b after : ExprBuilder} {s close : String} {op : Operator}
  {operands : List Expr} {pending : List Pending} {ps : List ExprPiece} {e x : Expr}

/-! ### Groups that close -/

/-- The pieces write the items of a group, with a separator between one and the next. -/
inductive WritesItems (t : OperatorTable) : List ExprPiece → List Expr → Prop
  /-- No pieces write no items. -/
  | none : WritesItems t [] []
  /-- The pieces of an expression write one item. -/
  | one {ps : List ExprPiece} {e : Expr} (h : build t ps = .ok e) : WritesItems t ps [e]
  /-- An item is followed by a separator and the others. -/
  | more {ps qs : List ExprPiece} {s : String} {e next : Expr} {es : List Expr}
      (h : build t ps = .ok e) (hs : (t.separator? s).isSome)
      (hrest : WritesItems t qs (next :: es)) :
    WritesItems t (ps ++ .symbol s :: qs) (e :: next :: es)

/-- The two symbols around items give the expression that the group forms of these items: as a plain
group wherever an operand is expected, and after an operand as a group that applies to it. -/
structure Encloses (t : OperatorTable) (op : Operator) (close : String) : Prop where
  /-- As a plain group. -/
  plain {ps : List ExprPiece} {items : List Expr} {x : Expr} (hitems : WritesItems t ps items)
    (hx : formed? op none items = some x) (operands : List Expr) (pending : List Pending) :
    TakesAll t ⟨operands, pending, true⟩ (.symbol op.symbol :: ps ++ [.symbol close])
      ⟨x :: operands, pending, false⟩
  /-- As a group that applies to the operand before it. -/
  applied {ps : List ExprPiece} {items : List Expr} {x target : Expr}
    (hitems : WritesItems t ps items) (hx : formed? op (some target) items = some x)
    (hc : op.operation = .bracket ∨ target.isInvocable = true) (operands : List Expr)
    {pending : List Pending} (hp : Pending.Settled pending) :
    TakesAll t ⟨target :: operands, pending, false⟩ (.symbol op.symbol :: ps ++ [.symbol close])
      ⟨x :: operands, pending, false⟩

/-- The symbol of a group opens it where an operand is expected. -/
theorem runs_push_plain (ht : t.Coherent) (hs : t.opened? s = some op) (operands : List Expr)
    (pending : List Pending) :
    Runs (push t (.symbol s)) ⟨operands, pending, true⟩ ()
      ⟨operands, .group op none [] operands.length :: pending, true⟩ := by
  refine runs_get_bind_iff.mpr ?_
  simp only [if_true, pushBeforeOperand, (ht.of_opened? hs).1, hs]
  exact runs_get_bind_iff.mpr (runs_pushPending_iff.mpr rfl)

/-- The symbol of a group opens it on the operand before it. -/
theorem runs_push_applied (ht : t.Coherent) (hs : t.opened? s = some op) {target : Expr}
    (hc : op.operation = .bracket ∨ target.isInvocable = true) (operands : List Expr)
    (hp : Pending.Settled pending) :
    Runs (push t (.symbol s)) ⟨target :: operands, pending, false⟩ ()
      ⟨operands, .group op (some target) [] operands.length :: pending, true⟩ := by
  refine runs_get_bind_iff.mpr ?_
  simp only [Bool.false_eq_true, if_false, pushAfterOperand, (ht.of_opened? hs).2, hs]
  have hdue := hp.runs_applyDue_reducesBefore (target :: operands) op.precedence .left
  exact runs_openOn_iff.mpr
    ⟨_, target, operands, runs_applyBefore_iff.mpr hdue, rfl, hc, rfl⟩

/-- An expression is built where all pieces are taken and what they leave is finished. -/
theorem exists_takesAll_of_build (h : build t ps = .ok e) :
    ∃ between after, TakesAll t start ps between ∧ Runs ExprBuilder.close between e after := by
  have hrun : Runs (do ps.forM (push t); ExprBuilder.close) start e
      ((do ps.forM (push t); ExprBuilder.close : Step Expr).run.run start).2 := Prod.ext h rfl
  obtain ⟨_, between, htaken, hclose⟩ := runs_bind_iff.mp hrun
  exact ⟨between, _, htaken, hclose⟩

/-- The pieces of an expression are taken in a group, and leave operators that the end of an item
applies, with the expression as their result. -/
theorem takesAll_item (h : build t ps = .ok e) (operands : List Expr)
    (hp : Pending.Settled pending) :
    ∃ between, TakesAll t ⟨operands, pending, true⟩ ps between ∧ between.wantsOperand = false ∧
      Runs (applyDue (between.pending.takeWhile Pending.isOperator)) between ()
        ⟨e :: operands, pending, false⟩ := by
  obtain ⟨between, _, htaken, hclose⟩ := exists_takesAll_of_build h
  obtain ⟨hw, done, hdue, ho, -⟩ := runs_close_iff.mp hclose
  obtain ⟨hall, hpending, hwants⟩ := hdue.of_applyDue
  rw [List.drop_length] at hpending
  have hwhole : between.pending.takeWhile Pending.isOperator = between.pending := by
    calc between.pending.takeWhile Pending.isOperator
        = (between.pending ++ []).takeWhile Pending.isOperator := by rw [List.append_nil]
      _ = between.pending ++ [] := List.takeWhile_append_of_pos hall
      _ = between.pending := List.append_nil _
  refine ⟨between.above operands pending, htaken.above hp operands, hw, ?_⟩
  have hdone : done.above operands pending = ⟨e :: operands, pending, false⟩ := by
    unfold above
    rw [ho, hpending, hwants, hw]
    rfl
  rw [← hdone]
  exact Runs.applyOperators_above hp (by rwa [hwhole]) operands

/-- The symbol that closes a group ends its last item and closes it. -/
theorem runs_push_closed (ht : t.Coherent) (hs : t.closed? close = some op)
    (hne : close ≠ op.symbol) {target : Option Expr} {items : List Expr} {base : Nat}
    (hw : b.wantsOperand = false)
    (hdue : Runs (applyDue (b.pending.takeWhile Pending.isOperator)) b ()
      ⟨e :: operands, .group op target items base :: pending, false⟩)
    (hx : formed? op target (items ++ [e]) = some x) :
    Runs (push t (.symbol close)) b () ⟨x :: operands, pending, false⟩ := by
  obtain ⟨-, hinfixed, hseparator⟩ := ht.of_closed? hs
  refine runs_get_bind_iff.mpr ?_
  simp only [hw, Bool.false_eq_true, if_false, pushAfterOperand, hinfixed,
    ht.opened?_eq_none hs hne, hseparator, Option.isSome_none, hs]
  exact runs_closeWith_iff.mpr ⟨_, e, operands, target, items, base, pending, x, hdue, rfl, rfl, hx,
    rfl⟩

/-- The symbol that closes a group closes it right after it has opened. -/
theorem runs_push_closedEmpty (ht : t.Coherent) (hs : t.closed? close = some op)
    (hne : close ≠ op.symbol) {target : Option Expr} (hx : formed? op target [] = some x)
    (operands : List Expr) (pending : List Pending) :
    Runs (push t (.symbol close)) ⟨operands, .group op target [] operands.length :: pending, true⟩
      () ⟨x :: operands, pending, false⟩ := by
  refine runs_get_bind_iff.mpr ?_
  simp only [if_true, pushBeforeOperand, (ht.of_closed? hs).1, ht.opened?_eq_none hs hne]
  refine runs_get_bind_iff.mpr ?_
  simp only [hs, List.isEmpty_nil, and_self, if_true]
  exact runs_closeGroup_iff.mpr ⟨op, target, [], operands.length, pending, x, rfl, hx, rfl⟩

/-- A separator ends an item and lets the group expect another one. -/
theorem runs_push_separated (ht : t.Coherent) (hs : (t.separator? s).isSome)
    {target : Option Expr} {items : List Expr} {base : Nat} (hw : b.wantsOperand = false)
    (hdue : Runs (applyDue (b.pending.takeWhile Pending.isOperator)) b ()
      ⟨e :: operands, .group op target items base :: pending, false⟩) :
    Runs (push t (.symbol s)) b ()
      ⟨operands, .group op target (items ++ [e]) base :: pending, true⟩ := by
  obtain ⟨hinfixed, hopened⟩ := ht.of_separator? hs
  refine runs_get_bind_iff.mpr ?_
  simp only [hw, Bool.false_eq_true, if_false, pushAfterOperand, hinfixed, hopened, hs, if_true]
  exact runs_bind_iff.mpr ⟨(), _, runs_finishItem_iff.mpr
    ⟨_, e, operands, op, target, items, base, pending, hdue, rfl, rfl, rfl⟩,
    runs_setWants_iff.mpr rfl⟩

/-- Items and the symbol that closes their group are taken where the group expects an item. -/
theorem takesAll_close (ht : t.Coherent) (hs : t.closed? close = some op)
    (hne : close ≠ op.symbol) {target : Option Expr} {items new : List Expr} {base : Nat}
    (hnew : WritesItems t ps new) (hsome : new ≠ [])
    (hx : formed? op target (items ++ new) = some x) :
    TakesAll t ⟨operands, .group op target items base :: pending, true⟩ (ps ++ [.symbol close])
      ⟨x :: operands, pending, false⟩ := by
  induction hnew generalizing items with
  | none => exact absurd rfl hsome
  | one hbuild =>
    have hsettled : Pending.Settled (.group op target items base :: pending) := rfl
    obtain ⟨between, htaken, hw, hdue⟩ := takesAll_item hbuild operands hsettled
    exact htaken.append (runs_bind_iff.mpr
      ⟨(), _, runs_push_closed ht hs hne hw hdue hx, TakesAll.nil⟩)
  | @more ps qs s e next es hbuild hsep hrest ih =>
    have hsettled : Pending.Settled (.group op target items base :: pending) := rfl
    obtain ⟨between, htaken, hw, hdue⟩ := takesAll_item hbuild operands hsettled
    have hothers : TakesAll t ⟨operands, .group op target (items ++ [e]) base :: pending, true⟩
        (qs ++ [.symbol close]) ⟨x :: operands, pending, false⟩ :=
      ih (List.cons_ne_nil next es) (by rwa [List.append_assoc])
    rw [List.append_assoc]
    exact htaken.append (runs_bind_iff.mpr
      ⟨(), _, runs_push_separated ht hsep hw hdue, hothers⟩)

/-- Items and the symbol that closes their group are taken right after the group has opened. -/
theorem takesAll_opened (ht : t.Coherent) (hs : t.closed? close = some op)
    (hne : close ≠ op.symbol) {target : Option Expr} {items : List Expr}
    (hitems : WritesItems t ps items) (hx : formed? op target items = some x) :
    TakesAll t ⟨operands, .group op target [] operands.length :: pending, true⟩
      (ps ++ [.symbol close]) ⟨x :: operands, pending, false⟩ := by
  cases hitems with
  | none =>
    exact runs_bind_iff.mpr
      ⟨(), _, runs_push_closedEmpty ht hs hne hx operands pending, TakesAll.nil⟩
  | one h => exact takesAll_close ht hs hne (.one h) (List.cons_ne_nil _ _) hx
  | more h hsep hrest =>
    exact takesAll_close ht hs hne (.more h hsep hrest) (List.cons_ne_nil _ _) hx

/-- In a coherent table a group whose two symbols differ encloses its items. -/
theorem encloses_of_ne (ht : t.Coherent) (hm : op ∈ t.operators) (hshape : op.shape = .group close)
    (hne : close ≠ op.symbol) : Encloses t op close := by
  obtain ⟨hopened, hclosed⟩ := ht.finds_group hm hshape
  constructor
  · intro ps items x hitems hx operands pending
    exact runs_bind_iff.mpr ⟨(), _, runs_push_plain ht hopened operands pending,
      takesAll_opened ht hclosed hne hitems hx⟩
  · intro ps items x target hitems hx hc operands pending hp
    exact runs_bind_iff.mpr ⟨(), _, runs_push_applied ht hopened hc operands hp,
      takesAll_opened ht hclosed hne hitems hx⟩

/-! ### Groups that never close -/

/-- The operators of the groups that are open, the innermost first. -/
def openGroups (b : ExprBuilder) : List Operator := b.pending.filterMap Pending.group?

/-- Applying what is due leaves the groups that are open. -/
theorem openGroups_of_applyDue {f : Pending → Bool} {between : ExprBuilder}
    (h : Runs (applyDue (b.pending.takeWhile f)) b () between) :
    between.openGroups = b.openGroups := by
  have hnone : (b.pending.takeWhile f).filterMap Pending.group? = [] :=
    List.filterMap_eq_nil_iff.mpr fun p hp => Pending.group?_eq_none (h.of_applyDue.1 p hp)
  unfold openGroups
  rw [← h.takeWhile_append_of_applyDue, List.filterMap_append, hnone, List.nil_append]

/-- A piece leaves the groups that are open, opens one more, or closes the innermost one. -/
theorem openGroups_of_taken {piece : ExprPiece} (h : Taken t b piece after) :
    after.openGroups = b.openGroups ∨
      (∃ s op, piece = .symbol s ∧ t.opened? s = some op ∧
        after.openGroups = op :: b.openGroups) ∨
      ∃ s op, piece = .symbol s ∧ t.closed? s = some op ∧
        b.openGroups = op :: after.openGroups := by
  cases h with
  | literal | identifier | prefixed => exact .inl rfl
  | opened hw hs => exact .inr (.inl ⟨_, _, rfl, hs, rfl⟩)
  | closedEmpty hw hs hp he =>
    refine .inr (.inr ⟨_, _, rfl, hs, ?_⟩)
    simp [openGroups, hp, Pending.group?]
  | infixed hw hs ho hr =>
    refine .inl ?_
    rw [← openGroups_of_applyDue hr]
    rfl
  | applied hw hs hr hi hc =>
    refine .inr (.inl ⟨_, _, rfl, hs, ?_⟩)
    rw [← openGroups_of_applyDue hr]
    rfl
  | separated hw hs hr hi hp =>
    refine .inl ?_
    rw [← openGroups_of_applyDue hr]
    simp [openGroups, hp, Pending.group?]
  | closed hw hs hr hi hp he =>
    refine .inr (.inr ⟨_, _, rfl, hs, ?_⟩)
    rw [← openGroups_of_applyDue hr]
    simp [openGroups, hp, Pending.group?]

/-- The symbol of a group opens it wherever it is taken. -/
theorem openGroups_of_opened (ht : t.Coherent) (hs : t.opened? s = some op)
    (h : Runs (push t (.symbol s)) b () after) : after.openGroups = op :: b.openGroups := by
  obtain ⟨hprefixed, hinfixed⟩ := ht.of_opened? hs
  simp only [push, runs_get_bind_iff, pushBeforeOperand, pushAfterOperand, hprefixed, hinfixed,
    hs] at h
  split at h
  · rw [runs_pushPending_iff.mp h]
    rfl
  · obtain ⟨between, target, rest, hbefore, -, -, rfl⟩ := runs_openOn_iff.mp h
    rw [← openGroups_of_applyDue (runs_applyBefore_iff.mp hbefore)]
    rfl

/-- Only an expression in which no group is left open is finished. -/
theorem openGroups_of_close (h : Runs ExprBuilder.close b e after) : b.openGroups = [] := by
  obtain ⟨-, between, hdue, -⟩ := runs_close_iff.mp h
  exact List.filterMap_eq_nil_iff.mpr fun p hp =>
    Pending.group?_eq_none (hdue.of_applyDue.1 p hp)

section Mirrored

variable (ht : t.Coherent) (hm : op ∈ t.operators) (hshape : op.shape = .group op.symbol)

include ht hm hshape

/-- A group that closes with the symbol that opens it stays open whatever piece is taken. -/
theorem mem_openGroups_of_push {piece : ExprPiece} (hopen : op ∈ b.openGroups)
    (h : Runs (push t piece) b () after) : op ∈ after.openGroups := by
  obtain hsame | ⟨s, op', -, -, hmore⟩ | ⟨s, op', rfl, hs, hless⟩ :=
    openGroups_of_taken (taken_of_runs_push h)
  · rwa [hsame]
  · rw [hmore]
    exact List.mem_cons_of_mem _ hopen
  · rw [hless] at hopen
    rcases List.mem_cons.mp hopen with rfl | hmem
    · -- What closes the group is the symbol that opens it, so it has opened another one.
      have hsymbol : s = op.symbol := eq_of_closed? hshape hs
      rw [hsymbol] at h
      rw [openGroups_of_opened ht (ht.finds_group hm hshape).1 h]
      exact List.mem_cons_self
    · exact hmem

/-- A group that closes with the symbol that opens it is open from its first symbol on. -/
theorem mem_openGroups_of_takesAll (hsymbol : .symbol op.symbol ∈ ps)
    (h : TakesAll t b ps after) : op ∈ after.openGroups := by
  have hopen {between : ExprBuilder} (hmem : op ∈ between.openGroups) {qs : List ExprPiece}
      (hqs : TakesAll t between qs after) : op ∈ after.openGroups := by
    induction qs generalizing between with
    | nil =>
      obtain ⟨-, rfl⟩ := runs_pure_iff.mp hqs
      exact hmem
    | cons piece qs ih =>
      obtain ⟨_, next, hpush, hrest⟩ := runs_bind_iff.mp hqs
      exact ih (mem_openGroups_of_push ht hm hshape hmem hpush) hrest
  induction ps generalizing b with
  | nil => exact absurd hsymbol List.not_mem_nil
  | cons piece ps ih =>
    obtain ⟨_, between, hpush, hrest⟩ := runs_bind_iff.mp h
    rcases List.mem_cons.mp hsymbol with rfl | hlater
    · have hopened := openGroups_of_opened ht (ht.finds_group hm hshape).1 hpush
      exact hopen (hopened ▸ List.mem_cons_self) hrest
    · exact ih hlater hrest

/-- No expression has the symbol of a group that closes with the symbol that opens it. -/
theorem build_ne_ok_of_mirrored (hsymbol : .symbol op.symbol ∈ ps) : build t ps ≠ .ok e := by
  intro hbuild
  obtain ⟨between, _, htaken, hclose⟩ := exists_takesAll_of_build hbuild
  have hmem := mem_openGroups_of_takesAll ht hm hshape hsymbol htaken
  rw [openGroups_of_close hclose] at hmem
  exact List.not_mem_nil hmem

end Mirrored

end ExprBuilder

namespace OperatorTable

open ExprBuilder

/-- The empty table and the standard one are coherent, and have no operator twice. -/
theorem coherent_and_nodup_of_start {start : OperatorTable}
    (h : start = empty ∨ start = standard) : start.Coherent ∧ start.operators.Nodup := by
  rcases h with rfl | rfl
  · exact ⟨fun op hm => absurd hm List.not_mem_nil, List.nodup_nil⟩
  · exact ⟨unambiguous_standard.coherent, by decide⟩

/-- Registration makes a symbol ambiguous only where a group closes with the symbol that opens it.
After any attempts to register operators in the empty or the standard table, the table has the
operators that it had and those that were accepted, once each; a symbol has at most one reading
where an operand is expected and at most one where an operator is, exactly if no group both opens
and closes with it; every operator is found as itself under each of its symbols; and a group
encloses its items if its symbols differ, while otherwise no expression has its symbol. -/
theorem readings_of_attemptAll {start : OperatorTable} (h : start = empty ∨ start = standard)
    (ops : List Operator) :
    let t := start.attemptAll ops
    t.operators.Nodup ∧
    (∀ op, op ∈ t.operators ↔ op ∈ start.operators ∨ start.Accepts ops op) ∧
    (∀ s, (t.readingsBefore s).length ≤ 1 ∧ (t.readingsAfter s).length ≤ 1 ↔
      ∀ op ∈ t.operators, op.close? = some s → op.symbol ≠ s) ∧
    (∀ op ∈ t.operators, t.Finds op) ∧
    ∀ op ∈ t.operators, ∀ close, op.shape = .group close →
      (close ≠ op.symbol → Encloses t op close) ∧
      (close = op.symbol → ∀ ps e, .symbol op.symbol ∈ ps → build t ps ≠ .ok e) := by
  intro t
  obtain ⟨hcoherent, hnodup⟩ := coherent_and_nodup_of_start h
  have ht : t.Coherent :=
    attemptAll_induction hcoherent (fun _ _ _ hbefore hr => hbefore.register hr) ops
  have hdistinct : t.operators.Nodup :=
    attemptAll_induction hnodup (fun _ _ _ hbefore hr => nodup_register hbefore hr) ops
  refine ⟨hdistinct, fun _ => mem_attemptAll_iff, ht.length_readings_le_iff, fun _ => ht.finds, ?_⟩
  intro op hm close hshape
  refine ⟨encloses_of_ne ht hm hshape, ?_⟩
  rintro rfl ps e hsymbol
  exact build_ne_ok_of_mirrored ht hm hshape hsymbol

/-- The operator of a group between `<:` and `:>`. -/
def angle : Operator := Operator.groupOp "<:" ":>" 0 .bracket

/-- The law at a group that is accepted between two operators that are refused. -/
theorem readings_of_attemptAll_angle :
    (standard = empty ∨ standard = standard) ∧
    let t := standard.attemptAll
      [Operator.prefixOp "(" 1 .not, angle, Operator.infixOp ":>" 5 .left .add]
    t.operators = standardOperators ++ [angle] ∧
    ((t.readingsBefore "<:").length ≤ 1 ∧ (t.readingsAfter "<:").length ≤ 1) ∧
    t.Finds angle ∧ Encloses t angle ":>" := by
  have hstart : standard = empty ∨ standard = standard := .inr rfl
  obtain ⟨-, -, hreadings, hfinds, hgroups⟩ := readings_of_attemptAll hstart
    [Operator.prefixOp "(" 1 .not, angle, Operator.infixOp ":>" 5 .left .add]
  have hoperators : (standard.attemptAll
      [Operator.prefixOp "(" 1 .not, angle, Operator.infixOp ":>" 5 .left .add]).operators =
        standardOperators ++ [angle] := by
    decide
  rw [hoperators] at hreadings hfinds hgroups
  have hmem : angle ∈ standardOperators ++ [angle] := List.mem_concat_self
  exact ⟨hstart, hoperators, (hreadings "<:").mpr (by decide), hfinds angle hmem,
    (hgroups angle hmem ":>" rfl).1 (by decide)⟩

/-- A group that opens and closes with `#` is accepted. Then `#` has two readings where an operand
is expected and two where an operator is, and the group cannot be closed: the second `#` opens a
group on what stands in the first. -/
theorem exists_two_readings :
    let op := Operator.groupOp "#" "#" 0 .bracket
    ∃ t, standard.register op = .ok t ∧
      t.readingsBefore "#" = [op, op] ∧ t.readingsAfter "#" = [op, op] ∧
      build t [.symbol "#", .identifier "x", .symbol "#"] = .error .incomplete := by
  exact ⟨⟨standardOperators ++ [Operator.groupOp "#" "#" 0 .bracket]⟩,
    register_eq_ok_iff.mpr ⟨by decide, rfl⟩, by decide, by decide, rfl⟩

end OperatorTable

end TagTemplate
