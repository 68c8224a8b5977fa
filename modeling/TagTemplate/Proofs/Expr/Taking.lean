import TagTemplate.Proofs.Expr.Step
import TagTemplate.Proofs.Operator.Unambiguous

/-!
# Taking pieces

In an unambiguous table the builder does whatever is listed of a piece: a symbol that has the
reading has no other one, so nothing stands in its way. Pieces are taken one after another; what is
taken of a list of pieces is what is taken of its parts in turn.
-/

namespace TagTemplate

namespace ExprBuilder

variable {t : OperatorTable} {b between after : ExprBuilder} {s : String}

/-- A step that begins by looking at the builder runs as what it then does. -/
theorem runs_get_bind_iff {α : Type} {f : ExprBuilder → Step α} {a : α} :
    Runs (get >>= f) b a after ↔ Runs (f b) b a after := by
  rw [runs_bind_iff]
  constructor
  · rintro ⟨_, _, hget, h⟩
    obtain ⟨rfl, rfl⟩ := runs_get_iff.mp hget
    exact h
  · intro h
    exact ⟨b, b, runs_get_iff.mpr ⟨rfl, rfl⟩, h⟩

/-- Where an operand is expected, a symbol that has a reading there is read so. -/
theorem runs_pushBeforeOperand_of_taken (ht : t.Unambiguous) (hw : b.wantsOperand = true)
    (h : Taken t b (.symbol s) after) : Runs (pushBeforeOperand t s) b () after := by
  unfold pushBeforeOperand
  cases h with
  | prefixed _ hs =>
    rw [hs]
    exact runs_pushPending_iff.mpr (by rw [hw])
  | opened _ hs =>
    rw [(ht.of_opened? hs).1, hs]
    exact runs_get_bind_iff.mpr (runs_pushPending_iff.mpr (by rw [hw]))
  | closedEmpty _ hs hp he =>
    obtain ⟨hbefore, -, hopening, -⟩ := ht.of_closed? hs
    rw [hbefore, hopening]
    refine runs_get_bind_iff.mpr ?_
    simp only [hs, hp]
    rw [if_pos (by simp)]
    exact runs_closeGroup_iff.mpr ⟨_, _, _, _, _, _, hp, he, rfl⟩
  | infixed hn | applied hn | separated hn | closed hn =>
    rw [hw] at hn
    cases hn

/-- Where an operator is expected, a symbol that has a reading there is read so. -/
theorem runs_pushAfterOperand_of_taken (ht : t.Unambiguous) (hw : b.wantsOperand = false)
    (h : Taken t b (.symbol s) after) : Runs (pushAfterOperand t s) b () after := by
  unfold pushAfterOperand
  cases h with
  | infixed _ hs ho hr =>
    rw [hs]
    simp only [ho]
    exact runs_bind_iff.mpr ⟨(), _, runs_applyBefore_iff.mpr hr,
      runs_bind_iff.mpr ⟨(), _, runs_pushPending_iff.mpr rfl, runs_setWants_iff.mpr rfl⟩⟩
  | applied _ hs hr hi hc =>
    rw [(ht.of_opened? hs).2, hs]
    exact runs_openOn_iff.mpr ⟨_, _, _, runs_applyBefore_iff.mpr hr, hi, hc, rfl⟩
  | separated _ hs hr hi hp =>
    obtain ⟨hbetween, hopening⟩ := ht.of_separator? hs
    rw [hbetween, hopening]
    simp only [hs, Option.isSome_some, if_true]
    exact runs_bind_iff.mpr ⟨(), _,
      runs_finishItem_iff.mpr ⟨_, _, _, _, _, _, _, _, hr, hi, hp, rfl⟩, runs_setWants_iff.mpr rfl⟩
  | closed _ hs hr hi hp he =>
    obtain ⟨-, hbetween, hopening, hseparating⟩ := ht.of_closed? hs
    rw [hbetween, hopening]
    simp only [hs, hseparating, Option.isSome_none, Bool.false_eq_true, if_false]
    exact runs_closeWith_iff.mpr ⟨_, _, _, _, _, _, _, _, hr, hi, hp, he, rfl⟩
  | prefixed hn | opened hn | closedEmpty hn =>
    rw [hw] at hn
    cases hn

/-- In an unambiguous table the builder does what is listed, and nothing else. -/
theorem runs_push_iff_taken (ht : t.Unambiguous) {piece : ExprPiece} :
    Runs (push t piece) b () after ↔ Taken t b piece after := by
  refine ⟨taken_of_runs_push, fun h => runs_get_bind_iff.mpr ?_⟩
  cases piece with
  | literal v =>
    cases h with
    | literal hw =>
      simp only [hw, if_true]
      exact runs_acceptOperand_iff.mpr rfl
  | identifier name =>
    cases h with
    | identifier hw =>
      simp only [hw, if_true]
      exact runs_acceptOperand_iff.mpr rfl
  | symbol s =>
    cases hw : b.wantsOperand with
    | true => exact runs_pushBeforeOperand_of_taken ht hw h
    | false => exact runs_pushAfterOperand_of_taken ht hw h

/-- Taking all the pieces in turn leads from one builder to another. -/
def TakesAll (t : OperatorTable) (b : ExprBuilder) (ps : List ExprPiece) (after : ExprBuilder) :
    Prop :=
  Runs (ps.forM (push t)) b () after

namespace TakesAll

variable {piece : ExprPiece} {ps qs : List ExprPiece}

/-- No pieces lead nowhere. -/
theorem nil : TakesAll t b [] b := runs_pure_iff.mpr ⟨rfl, rfl⟩

/-- The first piece is taken before the others. -/
theorem cons (ht : t.Unambiguous) (h : Taken t b piece between)
    (hs : TakesAll t between ps after) : TakesAll t b (piece :: ps) after :=
  runs_bind_iff.mpr ⟨(), between, (runs_push_iff_taken ht).mpr h, hs⟩

/-- The pieces in front are taken before those behind them. -/
theorem append (h : TakesAll t b ps between) (hs : TakesAll t between qs after) :
    TakesAll t b (ps ++ qs) after := by
  induction ps generalizing b with
  | nil =>
    obtain ⟨-, rfl⟩ := runs_pure_iff.mp h
    exact hs
  | cons piece ps ih =>
    obtain ⟨_, first, hp, h⟩ := runs_bind_iff.mp h
    exact runs_bind_iff.mpr ⟨(), first, hp, ih h⟩

/-- A single piece is taken. -/
theorem single (ht : t.Unambiguous) (h : Taken t b piece after) : TakesAll t b [piece] after :=
  cons ht h nil

end TakesAll

end ExprBuilder

end TagTemplate
