import Mathlib.Data.List.TakeWhile
import TagTemplate.Proofs.Expr.Phrase

/-!
# Readings

A reading is a builder that has not forgotten what it read: the phrases on its operand stack and,
with each entry that waits, the phrases to its left. Every builder that pieces lead to is that of
a sound reading, whose written pieces are the pieces taken so far. The operator that comes in is
applied after all that bind before it, so on the stack of a sound reading no waiting operator
would go before the infix operator directly above it; this is what puts operands in their place.
-/

namespace TagTemplate

/-- What waits in a reading, with what stands to its left. -/
inductive Held where
  /-- A prefix operator. -/
  | prefixed (op : Operator)
  /-- An infix operator and its left operand. -/
  | infixed (op : Operator) (left : Phrase)
  /-- An open group: what it applies to, and its items so far with the separator after them. -/
  | group (op : Operator) (target : Option Phrase) (ended : Option (PhraseRow × String))

/-- Whether a group that applies to the given target is a plain one around a single expression. -/
def Operator.isPlainOn (op : Operator) (target : Option Phrase) : Bool :=
  target.isNone && decide (op.operation ≠ .bracket)

namespace PhraseRow

/-- The trees of the items so far. -/
def endedExprs : Option (PhraseRow × String) → List Expr
  | none => []
  | some (row, _) => Phrase.rowExprs row

/-- What is written of the items so far and the separator after them. -/
def endedWritten : Option (PhraseRow × String) → List WrittenPiece
  | none => []
  | some (row, separator) => Phrase.rowWritten row ++ [.bare separator]

/-- The items so far and one more. -/
def extend : Option (PhraseRow × String) → Phrase → PhraseRow
  | none, item => .one item
  | some (row, separator), item => .more row separator item

theorem rowExprs_extend (ended : Option (PhraseRow × String)) (item : Phrase) :
    Phrase.rowExprs (extend ended item) = endedExprs ended ++ [item.expr] := by
  cases ended <;> rfl

theorem rowWritten_extend (ended : Option (PhraseRow × String)) (item : Phrase) :
    Phrase.rowWritten (extend ended item) = endedWritten ended ++ item.written := by
  cases ended with
  | none => rfl
  | some pair =>
    simp only [extend, endedWritten, Phrase.rowWritten, List.append_assoc, List.cons_append,
      List.nil_append]

/-- A group that must hold a single item is closed after its first one. -/
theorem eq_none_of_only? {ended : Option (PhraseRow × String)} {x e : Expr}
    (h : Expr.only? (endedExprs ended ++ [x]) = some e) : ended = none ∧ x = e := by
  cases ended with
  | none => exact ⟨rfl, Option.some.inj h⟩
  | some pair =>
    dsimp only [endedExprs] at h
    cases hr : Phrase.rowExprs pair.1 with
    | nil => exact absurd hr (Phrase.rowExprs_ne_nil pair.1)
    | cons y ys =>
      rw [hr] at h
      cases ys <;> cases h

end PhraseRow

namespace Phrase

variable {t : OperatorTable}

/-- A phrase that the table reads and that respects precedence. -/
structure Proper (t : OperatorTable) (p : Phrase) : Prop where
  /-- The table reads its symbols. -/
  readBy : p.ReadBy t
  /-- Its operands are where precedence puts them. -/
  respects : p.Respects

/-- Items that the table reads and that respect precedence. -/
structure RowProper (t : OperatorTable) (row : PhraseRow) : Prop where
  /-- The table reads their symbols. -/
  readBy : RowReadBy t row
  /-- They respect precedence. -/
  respects : RowRespects row

theorem RowProper.extend {ended : Option (PhraseRow × String)} {item : Phrase}
    (he : ∀ row separator, ended = some (row, separator) →
      RowProper t row ∧ t.separator? separator ≠ none) (hi : item.Proper t) :
    RowProper t (PhraseRow.extend ended item) := by
  cases ended with
  | none => exact ⟨hi.readBy, hi.respects⟩
  | some pair =>
    obtain ⟨hr, hs⟩ := he pair.1 pair.2 rfl
    exact ⟨⟨hs, hr.readBy, hi.readBy⟩, hr.respects, hi.respects⟩

end Phrase

namespace Held

variable {t : OperatorTable}

/-- The operator, unless it is an open group. -/
def operator? : Held → Option Operator
  | .prefixed op | .infixed op _ => some op
  | .group _ _ _ => none

/-- The operator, if it is an infix one. -/
def infixOperator? : Held → Option Operator
  | .infixed op _ => some op
  | _ => none

/-- The operand to the left. -/
def left? : Held → Option Phrase
  | .infixed _ left => some left
  | _ => none

/-- What is written of it. -/
def written : Held → List WrittenPiece
  | .prefixed op => [.bare op.symbol]
  | .infixed op left => left.written ++ [.bare op.symbol]
  | .group op target ended =>
    (target.elim [] Phrase.written) ++ ⟨.symbol op.symbol, op.isPlainOn target⟩ ::
      PhraseRow.endedWritten ended

/-- Its entry on the stack of a builder, above `base` waiting operands. -/
def entry (base : Nat) : Held → Pending
  | .prefixed op => .prefixed op
  | .infixed op _ => .infixed op
  | .group op target ended => .group op (target.map Phrase.expr) (PhraseRow.endedExprs ended) base

/-- The operator takes the phrase that was read after it. -/
def absorb (p : Phrase) : Held → Phrase
  | .prefixed op => .prefixed op p
  | .infixed op left => .infixed op left p
  | .group _ _ _ => p

/-- What it holds is proper, and it has its place by the table and by precedence. -/
def Sound (t : OperatorTable) : Held → Prop
  | .prefixed op => t.prefixed? op.symbol = some op
  | .infixed op left => t.infixed? op.symbol = some op ∧ left.Proper t ∧ left.FitsLeft op
  | .group op target ended =>
    t.opened? op.symbol = some op ∧
      (∀ p, target = some p →
        p.Proper t ∧ (op.operation = .bracket ∨ p.expr.isInvocable = true)) ∧
      ∀ row separator, ended = some (row, separator) →
        Phrase.RowProper t row ∧ t.separator? separator ≠ none

/-- The operator on top of a stack, unless a group is on top. -/
def top? : List Held → Option Operator
  | [] => none
  | h :: _ => h.operator?

/-- No operator on the stack would go before the infix operator directly above it. -/
def Ordered : List Held → Prop
  | [] => True
  | h :: below =>
    (∀ op, h.infixOperator? = some op → ∀ first, top? below = some first →
      first.appliedBefore op = false) ∧ Ordered below

/-- The operands that wait under the entries of a stack. -/
def operands (held : List Held) : List Expr := (held.filterMap left?).map Phrase.expr

/-- The entries of a stack. -/
def entries : List Held → List Pending
  | [] => []
  | h :: below => h.entry (operands below).length :: entries below

/-- What is written up to the top of a stack. -/
def allWritten : List Held → List WrittenPiece
  | [] => []
  | h :: below => allWritten below ++ h.written

end Held

/-- A builder together with what it has read. -/
structure Reading where
  /-- What waits, the latest first. -/
  held : List Held
  /-- The phrase just read, where an operator has to come next. -/
  current : Option Phrase

namespace Reading

/-- The builder of a reading. -/
def builder (r : Reading) : ExprBuilder where
  operands := (r.current.map Phrase.expr).toList ++ Held.operands r.held
  pending := Held.entries r.held
  wantsOperand := r.current.isNone

/-- All that was read, as it was written. -/
def written (r : Reading) : List WrittenPiece :=
  Held.allWritten r.held ++ r.current.elim [] Phrase.written

/-- What waits is sound and ordered, and the phrase just read is proper and has no operator of
its own that a group does not enclose. -/
structure Sound (t : OperatorTable) (r : Reading) : Prop where
  /-- Every entry is sound. -/
  held : ∀ h ∈ r.held, h.Sound t
  /-- The stack is ordered. -/
  ordered : Held.Ordered r.held
  /-- The phrase just read is proper. -/
  proper : ∀ p, r.current = some p → p.Proper t
  /-- The phrase just read stands for itself. -/
  whole : ∀ p, r.current = some p → p.head? = none

/-- Nothing read. -/
def start : Reading := ⟨[], none⟩

theorem sound_start (t : OperatorTable) : start.Sound t where
  held := by simp [start]
  ordered := trivial
  proper := by simp [start]
  whole := by simp [start]

end Reading

namespace Held

open ExprBuilder

variable {t : OperatorTable}

/-- An operator writes its phrase after what it holds. -/
theorem written_absorb {h : Held} (ho : h.operator? ≠ none) (p : Phrase) :
    (h.absorb p).written = h.written ++ p.written := by
  cases h with
  | prefixed op => rfl
  | infixed op left =>
    simp only [absorb, written, Phrase.written, List.append_assoc, List.cons_append,
      List.nil_append]
  | group op target ended => exact absurd rfl ho

/-- The operator that takes a phrase becomes its head. -/
theorem head?_absorb {h : Held} (ho : h.operator? ≠ none) (p : Phrase) :
    (h.absorb p).head? = h.operator? := by
  cases h with
  | prefixed op => rfl
  | infixed op left => rfl
  | group op target ended => exact absurd rfl ho

/-- The phrase that an operator forms has an infix head only if the operator is infix. -/
theorem infixHead?_absorb {h : Held} (ho : h.operator? ≠ none) (p : Phrase) :
    (h.absorb p).infixHead? = h.infixOperator? := by
  cases h with
  | prefixed op => rfl
  | infixed op left => rfl
  | group op target ended => exact absurd rfl ho

/-- Applying a sound entry to a proper phrase that fits it forms a proper phrase. -/
theorem proper_of_runs_apply {h : Held} {p : Phrase} {base : Nat} {below : List Held}
    {pending : List Pending} {wants : Bool} {after : ExprBuilder} (hs : h.Sound t)
    (hp : p.Proper t) (hf : ∀ first, h.operator? = some first → p.FitsRight first)
    (hr : Runs (apply (h.entry base)) ⟨p.expr :: operands (h :: below), pending, wants⟩ () after) :
    h.operator? ≠ none ∧ (h.absorb p).Proper t ∧
      after = ⟨(h.absorb p).expr :: operands below, pending, wants⟩ := by
  cases h with
  | prefixed op =>
    obtain ⟨operand, rest, hb, hn, rfl⟩ := runs_apply_prefixed_iff.mp hr
    cases hb
    exact ⟨Option.some_ne_none op, ⟨⟨hs, hn, hp.readBy⟩, ⟨hf op rfl, hp.respects⟩⟩, rfl⟩
  | infixed op left =>
    obtain ⟨ht, hl, hleft⟩ := hs
    obtain ⟨_, _, rest, hb, hn, hm, rfl⟩ := runs_apply_infixed_iff.mp hr
    cases hb
    exact ⟨Option.some_ne_none op, ⟨⟨ht, hn, hm, hl.readBy, hp.readBy⟩,
      ⟨hleft, hf op rfl, hl.respects, hp.respects⟩⟩, rfl⟩
  | group op target ended => exact absurd hr not_runs_apply_group

end Held

namespace Reading

open ExprBuilder

variable {t : OperatorTable} {P : Operator → Prop}

/-- A phrase on top of a sound stack, in the middle of applying what is due. It fits the operator
below it, and its own operator, unless a group encloses it, is among those that were due. -/
structure Poised (t : OperatorTable) (P : Operator → Prop) (held : List Held) (p : Phrase) :
    Prop where
  /-- Every entry is sound. -/
  sound : ∀ h ∈ held, h.Sound t
  /-- The stack is ordered. -/
  ordered : Held.Ordered held
  /-- The phrase is proper. -/
  proper : p.Proper t
  /-- It fits the operator below it. -/
  fits : ∀ first, Held.top? held = some first → p.FitsRight first
  /-- Its operator was due. -/
  head : ∀ op, p.head? = some op → P op

/-- A phrase that was just read is poised, whatever is due. -/
theorem Sound.poised {held : List Held} {p : Phrase} (h : Sound t ⟨held, some p⟩) :
    Poised t P held p where
  sound := h.held
  ordered := h.ordered
  proper := h.proper p rfl
  fits := by
    intro first _ op hi
    have hw := h.whole p rfl
    cases p <;> simp [Phrase.head?, Phrase.infixHead?] at hw hi
  head := by
    intro op hi
    rw [h.whole p rfl] at hi
    cases hi

/-- Applying what is due from the top of the stack keeps the phrase poised and loses no piece. -/
theorem poised_of_runs_applyDue {f : Pending → Bool} {g : Held → Bool}
    (hfg : ∀ h base, f (h.entry base) = g h)
    (hP : ∀ h op, g h = true → h.operator? = some op → P op) {after : ExprBuilder}
    {held : List Held} {p : Phrase} (hp : Poised t P held p)
    (hr : Runs (applyDue ((Held.entries held).takeWhile f)) (builder ⟨held, some p⟩) () after) :
    ∃ q, after = builder ⟨held.dropWhile g, some q⟩ ∧ Poised t P (held.dropWhile g) q ∧
      written ⟨held.dropWhile g, some q⟩ = written ⟨held, some p⟩ := by
  induction held generalizing p with
  | nil =>
    obtain ⟨-, rfl⟩ := runs_pure_iff.mp hr
    exact ⟨p, rfl, hp, rfl⟩
  | cons h below ih =>
    by_cases hg : g h = true
    · rw [Held.entries, List.takeWhile_cons, hfg, if_pos hg, runs_applyDue_cons_iff] at hr
      obtain ⟨between, ha, hr⟩ := hr
      obtain ⟨ho, hq, rfl⟩ := Held.proper_of_runs_apply (hp.sound h List.mem_cons_self) hp.proper
        (fun first hi => hp.fits first hi) ha
      have hpoised : Poised t P below (h.absorb p) := by
        refine ⟨fun k hk => hp.sound k (List.mem_cons_of_mem _ hk), hp.ordered.2, hq, ?_, ?_⟩
        · intro first hi op hop
          rw [Held.infixHead?_absorb ho] at hop
          exact hp.ordered.1 op hop first hi
        · intro op hop
          rw [Held.head?_absorb ho] at hop
          exact hP h op hg hop
      obtain ⟨q, rfl, hq, hw⟩ := ih hpoised hr
      rw [List.dropWhile_cons, if_pos hg]
      refine ⟨q, rfl, hq, hw.trans ?_⟩
      simp only [written, Held.allWritten, Option.elim_some, Held.written_absorb ho,
        List.append_assoc]
    · rw [Held.entries, List.takeWhile_cons, hfg, if_neg hg] at hr
      obtain ⟨-, rfl⟩ := runs_pure_iff.mp hr
      rw [List.dropWhile_cons, if_neg hg]
      exact ⟨p, rfl, hp, rfl⟩

end Reading

namespace Held

variable {t : OperatorTable} {op : Operator} {target : Option Phrase}

/-- A group that closes after items forms a proper phrase that stands for itself, and its last
written piece is the closing symbol. -/
theorem exists_phrase_of_formed {ended : Option (PhraseRow × String)} {q : Phrase} {e : Expr}
    (hs : (group op target ended).Sound t) (ht : t.closed? op.closing = some op)
    (hq : q.Proper t)
    (he : Expr.formed? op (target.map Phrase.expr) (PhraseRow.endedExprs ended ++ [q.expr]) =
      some e) :
    ∃ p : Phrase, p.expr = e ∧ p.head? = none ∧ p.Proper t ∧
      p.written = (group op target ended).written ++ q.written ++
        [⟨.symbol op.closing, op.isPlainOn target⟩] := by
  obtain ⟨ho, htarget, hended⟩ := hs
  have hrow : Phrase.RowProper t (PhraseRow.extend ended q) := .extend hended hq
  have hw := PhraseRow.rowWritten_extend ended q
  have hx := PhraseRow.rowExprs_extend ended q
  by_cases hb : op.operation = .bracket
  · have hf : op.isPlainOn target = false := by simp [Operator.isPlainOn, hb]
    cases target with
    | none =>
      rw [Option.map_none, Expr.formed?, if_pos hb, ← hx, Option.some.injEq] at he
      refine ⟨.listed op (PhraseRow.extend ended q), he, rfl,
        ⟨⟨⟨ho, ht⟩, hb, hrow.readBy⟩, hrow.respects⟩, ?_⟩
      simp [Phrase.written, written, hw, hf, WrittenPiece.bare]
    | some f =>
      obtain ⟨hp, -⟩ := htarget f rfl
      rw [Option.map_some, Expr.formed?, if_pos hb, Option.map_eq_some_iff] at he
      obtain ⟨key, hk, rfl⟩ := he
      obtain ⟨rfl, rfl⟩ := PhraseRow.eq_none_of_only? hk
      refine ⟨.indexed op f q, rfl, rfl,
        ⟨⟨⟨ho, ht⟩, hb, hp.readBy, hq.readBy⟩, hp.respects, hq.respects⟩, ?_⟩
      simp [Phrase.written, written, hf, WrittenPiece.bare, PhraseRow.endedWritten]
  · cases target with
    | none =>
      have hf : op.isPlainOn (none : Option Phrase) = true := by simp [Operator.isPlainOn, hb]
      rw [Option.map_none, Expr.formed?, if_neg hb] at he
      obtain ⟨rfl, rfl⟩ := PhraseRow.eq_none_of_only? he
      refine ⟨.grouped op q, rfl, rfl, ⟨⟨⟨ho, ht⟩, hb, hq.readBy⟩, hq.respects⟩, ?_⟩
      simp [Phrase.written, written, hf, PhraseRow.endedWritten]
    | some f =>
      have hf : op.isPlainOn (some f) = false := rfl
      obtain ⟨hp, hi⟩ := htarget f rfl
      rw [Option.map_some, Expr.formed?, if_neg hb, ← hx, Option.some.injEq] at he
      refine ⟨.called op f (PhraseRow.extend ended q), he, rfl,
        ⟨⟨⟨ho, ht⟩, hb, hi.resolve_left hb, hp.readBy, hrow.readBy⟩, hp.respects,
          hrow.respects⟩, ?_⟩
      simp [Phrase.written, written, hw, hf, WrittenPiece.bare]

/-- A group that closes right after it has opened forms a proper phrase that stands for itself;
such a group is no plain one. -/
theorem exists_phrase_of_formed_nil {e : Expr} (hs : (group op target none).Sound t)
    (ht : t.closed? op.closing = some op)
    (he : Expr.formed? op (target.map Phrase.expr) [] = some e) :
    ∃ p : Phrase, p.expr = e ∧ p.head? = none ∧ p.Proper t ∧
      p.written = (group op target none).written ++ [.bare op.closing] := by
  obtain ⟨ho, htarget, -⟩ := hs
  by_cases hb : op.operation = .bracket
  · cases target with
    | none =>
      have hf : op.isPlainOn none = false := by simp [Operator.isPlainOn, hb]
      rw [Option.map_none, Expr.formed?, if_pos hb, Option.some.injEq] at he
      refine ⟨.emptyList op, he, rfl, ⟨⟨⟨ho, ht⟩, hb⟩, trivial⟩, ?_⟩
      simp [Phrase.written, written, hf, WrittenPiece.bare, PhraseRow.endedWritten]
    | some f =>
      rw [Option.map_some, Expr.formed?, if_pos hb] at he
      cases he
  · cases target with
    | none =>
      rw [Option.map_none, Expr.formed?, if_neg hb] at he
      cases he
    | some f =>
      have hf : op.isPlainOn (some f) = false := rfl
      obtain ⟨hp, hi⟩ := htarget f rfl
      rw [Option.map_some, Expr.formed?, if_neg hb, Option.some.injEq] at he
      refine ⟨.emptyCall op f, he, rfl,
        ⟨⟨⟨ho, ht⟩, hb, hi.resolve_left hb, hp.readBy⟩, hp.respects⟩, ?_⟩
      simp [Phrase.written, written, hf, WrittenPiece.bare, PhraseRow.endedWritten]

/-- A group that has just opened is sound when what it applies to is proper. -/
theorem Sound.opened (ho : t.opened? op.symbol = some op)
    (ht : ∀ p, target = some p →
      p.Proper t ∧ (op.operation = .bracket ∨ p.expr.isInvocable = true)) :
    (group op target none).Sound t := by
  refine ⟨ho, ht, ?_⟩
  intro _ _ hn
  cases hn

/-- Above an entry that is no infix operator a stack is ordered as it is below. -/
theorem Ordered.cons {top : Held} {below : List Held} (hn : top.infixOperator? = none)
    (ho : Ordered below) : Ordered (top :: below) := by
  refine ⟨?_, ho⟩
  intro op hi
  rw [hn] at hi
  cases hi

/-- An entry of a builder that is an open group is that of an open group. -/
theorem eq_group_of_entries {held : List Held} {shown : Option Expr} {items : List Expr}
    {base : Nat} {below : List Pending}
    (h : entries held = .group op shown items base :: below) :
    ∃ target ended outer, held = group op target ended :: outer ∧
      target.map Phrase.expr = shown ∧ PhraseRow.endedExprs ended = items ∧
      base = (operands outer).length ∧ entries outer = below := by
  cases held with
  | nil => cases h
  | cons top outer =>
    cases top with
    | prefixed o => cases h
    | infixed o left => cases h
    | group o target ended =>
      cases h
      exact ⟨target, ended, outer, rfl, rfl, rfl, rfl, rfl⟩

end Held

namespace Reading

open ExprBuilder WrittenPiece

variable {t : OperatorTable} {held : List Held} {p : Phrase}

/-- A builder after one more piece: it is that of a sound reading that has this piece as well. -/
def Continues (t : OperatorTable) (r : Reading) (piece : ExprPiece) (after : ExprBuilder) : Prop :=
  ∃ r' : Reading, after = r'.builder ∧ r'.Sound t ∧ pieces r'.written = pieces r.written ++ [piece]

/-- A proper phrase that stands for itself may follow a sound stack. -/
theorem Sound.withCurrent (h : ∀ k ∈ held, k.Sound t) (ho : Held.Ordered held)
    (hp : p.Proper t) (hn : p.head? = none) : Sound t ⟨held, some p⟩ where
  held := h
  ordered := ho
  proper := by
    intro q hq
    cases hq
    exact hp
  whole := by
    intro q hq
    cases hq
    exact hn

/-- A sound entry may be put on a sound stack where it is ordered. -/
theorem Sound.withHeld {top : Held} (hs : top.Sound t) (h : ∀ k ∈ held, k.Sound t)
    (ho : Held.Ordered (top :: held)) : Sound t ⟨top :: held, none⟩ where
  held := by
    intro k hk
    rcases List.mem_cons.mp hk with rfl | hk
    · exact hs
    · exact h k hk
  ordered := ho
  proper := by
    intro _ hn
    cases hn
  whole := by
    intro _ hn
    cases hn

/-- An operand is read where one is expected. -/
theorem continues_operand {piece : ExprPiece} (hr : Sound t ⟨held, none⟩) (hp : p.Proper t)
    (hn : p.head? = none) (hpiece : pieces p.written = [piece]) :
    Continues t ⟨held, none⟩ piece ⟨p.expr :: Held.operands held, Held.entries held, false⟩ := by
  refine ⟨⟨held, some p⟩, rfl, .withCurrent hr.held hr.ordered hp hn, ?_⟩
  simp [written, hpiece]

/-- What is due before an operator comes in, on the stack of a reading. -/
def isDue (precedence : Nat) (assoc : Associativity) (h : Held) : Bool :=
  h.operator?.any fun op => op.reducesBefore precedence assoc

/-- Below what is due there is no operator that is due. -/
theorem not_reducesBefore_of_top? {precedence : Nat} {assoc : Associativity} {first : Operator}
    (h : Held.top? (held.dropWhile (isDue precedence assoc)) = some first) :
    first.reducesBefore precedence assoc = false := by
  have hn := List.head?_dropWhile_not (isDue precedence assoc) held
  cases hd : held.dropWhile (isDue precedence assoc) with
  | nil =>
    rw [hd] at h
    cases h
  | cons top below =>
    rw [hd] at h hn
    dsimp only [Held.top?] at h
    dsimp only [List.head?_cons, isDue] at hn
    rw [h] at hn
    exact hn

/-- Applying what is due before an operator comes in leaves a poised phrase, and what was applied
to form it goes before that operator. -/
theorem poised_of_runs_applyBefore {precedence : Nat} {assoc : Associativity}
    {between : ExprBuilder} (hr : Sound t ⟨held, some p⟩)
    (hrun : Runs (applyDue ((Held.entries held).takeWhile (·.reducesBefore precedence assoc)))
      (builder ⟨held, some p⟩) () between) :
    ∃ q, between = builder ⟨held.dropWhile (isDue precedence assoc), some q⟩ ∧
      Poised t (fun op => op.reducesBefore precedence assoc = true)
        (held.dropWhile (isDue precedence assoc)) q ∧
      written ⟨held.dropWhile (isDue precedence assoc), some q⟩ = written ⟨held, some p⟩ := by
  refine poised_of_runs_applyDue ?_ ?_ hr.poised hrun
  · intro h base
    cases h <;> rfl
  · intro h op hg ho
    rw [isDue, ho] at hg
    exact hg

/-- Finishing an item leaves the phrase of the item above the group that it belongs to. -/
theorem exists_item_of_runs {between : ExprBuilder} {item : Expr} {rest items : List Expr}
    {op : Operator} {shown : Option Expr} {base : Nat} {below : List Pending}
    (hr : Sound t ⟨held, some p⟩)
    (hrun : Runs (applyDue ((Held.entries held).takeWhile Pending.isOperator))
      (builder ⟨held, some p⟩) () between)
    (hi : between.operands = item :: rest)
    (hp : between.pending = .group op shown items base :: below) :
    ∃ target ended outer q, Poised t (fun _ => True) (.group op target ended :: outer) q ∧
      written ⟨.group op target ended :: outer, some q⟩ = written ⟨held, some p⟩ ∧
      item = q.expr ∧ rest = Held.operands outer ∧ shown = target.map Phrase.expr ∧
      items = PhraseRow.endedExprs ended ∧ base = (Held.operands outer).length ∧
      below = Held.entries outer := by
  obtain ⟨q, rfl, hq, hw⟩ := poised_of_runs_applyDue (g := fun h => h.operator?.isSome)
    (P := fun _ => True) (by intro h _; cases h <;> rfl) (by intros; trivial) hr.poised hrun
  obtain ⟨target, ended, outer, hd, hs, hn, hb, he⟩ := Held.eq_group_of_entries hp
  dsimp only at hd
  dsimp only [builder] at hi
  rw [hd] at hq hw hi
  cases hi
  exact ⟨target, ended, outer, q, hq, hw, rfl, rfl, hs.symm, hn.symm, hb, he.symm⟩

section Pieces

variable {s : String} {op : Operator} {between : ExprBuilder}

/-- A prefix operator is put on the stack. -/
theorem continues_prefixed (hr : Sound t ⟨held, none⟩) (ht : t.prefixed? s = some op) :
    Continues t ⟨held, none⟩ (.symbol s)
      ⟨Held.operands held, .prefixed op :: Held.entries held, true⟩ := by
  obtain ⟨-, rfl, -⟩ := OperatorTable.of_prefixed? ht
  have hs : Sound t ⟨.prefixed op :: held, none⟩ := .withHeld ht hr.held (.cons rfl hr.ordered)
  refine ⟨_, rfl, hs, ?_⟩
  simp [written, Held.allWritten, Held.written, pieces, bare]

/-- A group that applies to nothing is put on the stack. -/
theorem continues_opened (hr : Sound t ⟨held, none⟩) (ht : t.opened? s = some op) :
    Continues t ⟨held, none⟩ (.symbol s)
      ⟨Held.operands held, .group op none [] (Held.operands held).length :: Held.entries held,
        true⟩ := by
  obtain ⟨-, rfl, -⟩ := OperatorTable.of_opened? ht
  have hg : (Held.group op none none).Sound t := by
    refine .opened ht ?_
    intro _ hn
    cases hn
  have hs : Sound t ⟨.group op none none :: held, none⟩ :=
    .withHeld hg hr.held (.cons rfl hr.ordered)
  refine ⟨_, rfl, hs, ?_⟩
  simp [written, Held.allWritten, Held.written, pieces, PhraseRow.endedWritten]

/-- A group that has just opened is closed. -/
theorem continues_closedEmpty {shown : Option Expr} {below : List Pending} {e : Expr}
    (hr : Sound t ⟨held, none⟩) (ht : t.closed? s = some op)
    (hp : Held.entries held = .group op shown [] (Held.operands held).length :: below)
    (he : Expr.formed? op shown [] = some e) :
    Continues t ⟨held, none⟩ (.symbol s) ⟨e :: Held.operands held, below, false⟩ := by
  obtain ⟨target, ended, outer, rfl, rfl, hn, hb, rfl⟩ := Held.eq_group_of_entries hp
  obtain rfl := OperatorTable.closing_of_closed? ht
  have hended : ended = none := by
    cases ended with
    | none => rfl
    | some pair => exact absurd hn (Phrase.rowExprs_ne_nil pair.1)
  subst hended
  obtain ⟨q, rfl, hq, hproper, hwritten⟩ :=
    Held.exists_phrase_of_formed_nil (hr.held _ List.mem_cons_self) ht he
  have hs : Sound t ⟨outer, some q⟩ :=
    .withCurrent (fun k hk => hr.held k (List.mem_cons_of_mem _ hk)) hr.ordered.2 hproper hq
  refine ⟨_, rfl, hs, ?_⟩
  simp [written, Held.allWritten, hwritten, pieces, bare]

/-- An infix operator is put on the stack after what goes before it has been applied. -/
theorem continues_infixed {assoc : Associativity} (hr : Sound t ⟨held, some p⟩)
    (ht : t.infixed? s = some op) (ho : op.shape = .infixed assoc)
    (hrun : Runs (applyDue ((Held.entries held).takeWhile (·.reducesBefore op.precedence assoc)))
      (builder ⟨held, some p⟩) () between) :
    Continues t ⟨held, some p⟩ (.symbol s)
      ⟨between.operands, .infixed op :: between.pending, true⟩ := by
  obtain ⟨-, rfl, -⟩ := OperatorTable.of_infixed? ht
  obtain ⟨q, rfl, hq, hwritten⟩ := poised_of_runs_applyBefore hr hrun
  have happlied : ∀ o : Operator, o.appliedBefore op = o.reducesBefore op.precedence assoc := by
    intro o
    simp only [Operator.appliedBefore, Operator.assoc?, ho]
  have hleft : (Held.infixed op q).Sound t := by
    refine ⟨ht, hq.proper, ?_⟩
    intro o hi
    rw [happlied]
    exact hq.head o hi
  have hordered : Held.Ordered (.infixed op q :: held.dropWhile (isDue op.precedence assoc)) := by
    refine ⟨?_, hq.ordered⟩
    intro o hn first hf
    cases hn
    rw [happlied]
    exact not_reducesBefore_of_top? hf
  refine ⟨_, rfl, .withHeld hleft hq.sound hordered, ?_⟩
  rw [← hwritten]
  simp [written, Held.allWritten, Held.written, pieces, bare]

/-- A group is put on the stack with the operand that it applies to. -/
theorem continues_applied {target : Expr} {rest : List Expr} (hr : Sound t ⟨held, some p⟩)
    (ht : t.opened? s = some op)
    (hrun : Runs (applyDue ((Held.entries held).takeWhile (·.reducesBefore op.precedence .left)))
      (builder ⟨held, some p⟩) () between)
    (hi : between.operands = target :: rest)
    (hc : op.operation = .bracket ∨ target.isInvocable = true) :
    Continues t ⟨held, some p⟩ (.symbol s)
      ⟨rest, .group op (some target) [] rest.length :: between.pending, true⟩ := by
  obtain ⟨-, rfl, -⟩ := OperatorTable.of_opened? ht
  obtain ⟨q, rfl, hq, hwritten⟩ := poised_of_runs_applyBefore hr hrun
  cases hi
  have hg : (Held.group op (some q) none).Sound t := by
    refine .opened ht ?_
    intro f hf
    cases hf
    exact ⟨hq.proper, hc⟩
  refine ⟨_, rfl, .withHeld hg hq.sound (.cons rfl hq.ordered), ?_⟩
  rw [← hwritten]
  simp [written, Held.allWritten, Held.written, pieces, PhraseRow.endedWritten]

/-- A separator takes the item before it into the innermost group. -/
theorem continues_separated {sep : Operator} {item : Expr} {rest items : List Expr}
    {shown : Option Expr} {base : Nat} {below : List Pending} (hr : Sound t ⟨held, some p⟩)
    (ht : t.separator? s = some sep)
    (hrun : Runs (applyDue ((Held.entries held).takeWhile Pending.isOperator))
      (builder ⟨held, some p⟩) () between)
    (hi : between.operands = item :: rest)
    (hp : between.pending = .group op shown items base :: below) :
    Continues t ⟨held, some p⟩ (.symbol s)
      ⟨rest, .group op shown (items ++ [item]) base :: below, true⟩ := by
  obtain ⟨target, ended, outer, q, hq, hwritten, rfl, rfl, rfl, rfl, rfl, rfl⟩ :=
    exists_item_of_runs hr hrun hi hp
  obtain ⟨ho, htarget, hended⟩ := hq.sound _ List.mem_cons_self
  have hg : (Held.group op target (some (PhraseRow.extend ended q, s))).Sound t := by
    refine ⟨ho, htarget, ?_⟩
    intro row separator hn
    cases hn
    exact ⟨.extend hended hq.proper, by rw [ht]; exact Option.some_ne_none sep⟩
  have hs : Sound t ⟨.group op target (some (PhraseRow.extend ended q, s)) :: outer, none⟩ :=
    .withHeld hg (fun k hk => hq.sound k (List.mem_cons_of_mem _ hk)) (.cons rfl hq.ordered.2)
  refine ⟨_, ?_, hs, ?_⟩
  · rw [← PhraseRow.rowExprs_extend]
    rfl
  · rw [← hwritten]
    simp [written, Held.allWritten, Held.written, pieces, bare, PhraseRow.endedWritten,
      PhraseRow.rowWritten_extend]

/-- A group takes its last item and is closed. -/
theorem continues_closed {item e : Expr} {rest items : List Expr} {shown : Option Expr}
    {base : Nat} {below : List Pending} (hr : Sound t ⟨held, some p⟩)
    (ht : t.closed? s = some op)
    (hrun : Runs (applyDue ((Held.entries held).takeWhile Pending.isOperator))
      (builder ⟨held, some p⟩) () between)
    (hi : between.operands = item :: rest)
    (hp : between.pending = .group op shown items base :: below)
    (he : Expr.formed? op shown (items ++ [item]) = some e) :
    Continues t ⟨held, some p⟩ (.symbol s) ⟨e :: rest, below, false⟩ := by
  obtain ⟨target, ended, outer, q, hq, hwritten, rfl, rfl, rfl, rfl, rfl, rfl⟩ :=
    exists_item_of_runs hr hrun hi hp
  obtain rfl := OperatorTable.closing_of_closed? ht
  obtain ⟨f, rfl, hf, hproper, hformed⟩ :=
    Held.exists_phrase_of_formed (hq.sound _ List.mem_cons_self) ht hq.proper he
  have hs : Sound t ⟨outer, some f⟩ :=
    .withCurrent (fun k hk => hq.sound k (List.mem_cons_of_mem _ hk)) hq.ordered.2 hproper hf
  refine ⟨_, rfl, hs, ?_⟩
  rw [← hwritten]
  simp [written, Held.allWritten, hformed, pieces]

end Pieces

/-- Taking a piece leads from a sound reading to a sound reading that has one more piece. -/
theorem continues_of_taken {r : Reading} {piece : ExprPiece} {after : ExprBuilder}
    (hr : r.Sound t) (h : Taken t r.builder piece after) : Continues t r piece after := by
  obtain ⟨held, current⟩ := r
  cases current with
  | none =>
    cases h with
    | literal => exact continues_operand (p := .literal _) hr ⟨trivial, trivial⟩ rfl rfl
    | identifier => exact continues_operand (p := .identifier _) hr ⟨trivial, trivial⟩ rfl rfl
    | prefixed _ ht => exact continues_prefixed hr ht
    | opened _ ht => exact continues_opened hr ht
    | closedEmpty _ ht hp he => exact continues_closedEmpty hr ht hp he
    | infixed hw | applied hw | separated hw | closed hw => cases hw
  | some p =>
    cases h with
    | infixed _ ht ho hrun => exact continues_infixed hr ht ho hrun
    | applied _ ht hrun hi hc => exact continues_applied hr ht hrun hi hc
    | separated _ ht hrun hi hp => exact continues_separated hr ht hrun hi hp
    | closed _ ht hrun hi hp he => exact continues_closed hr ht hrun hi hp he
    | literal hw | identifier hw | prefixed hw | opened hw | closedEmpty hw => cases hw

/-- Taking pieces one by one leads from a sound reading to one that has all of them. -/
theorem exists_reading_of_runs {r : Reading} {ps : List ExprPiece} {after : ExprBuilder}
    (hr : r.Sound t) (h : Runs (ps.forM (push t)) r.builder () after) :
    ∃ r' : Reading, after = r'.builder ∧ r'.Sound t ∧
      pieces r'.written = pieces r.written ++ ps := by
  induction ps generalizing r with
  | nil =>
    obtain ⟨-, rfl⟩ := runs_pure_iff.mp h
    exact ⟨r, rfl, hr, (List.append_nil _).symm⟩
  | cons piece ps ih =>
    obtain ⟨_, between, hp, h⟩ := runs_bind_iff.mp h
    obtain ⟨r₁, rfl, hr₁, hw₁⟩ := continues_of_taken hr (taken_of_runs_push hp)
    obtain ⟨r₂, rfl, hr₂, hw₂⟩ := ih hr₁ h
    refine ⟨r₂, rfl, hr₂, ?_⟩
    rw [hw₂, hw₁, List.append_assoc, List.singleton_append]

/-- The expression of a sound reading that is finished is that of a proper phrase that consists of
all that was read. -/
theorem exists_phrase_of_runs_close {r : Reading} {e : Expr} {after : ExprBuilder}
    (hr : r.Sound t) (h : Runs close r.builder e after) :
    ∃ p : Phrase, p.expr = e ∧ p.Proper t ∧ p.written = r.written := by
  obtain ⟨hw, between, hrun, hi, rfl⟩ := runs_close_iff.mp h
  obtain ⟨held, current⟩ := r
  obtain ⟨p, rfl⟩ : ∃ p, current = some p := by
    cases current with
    | none => cases hw
    | some p => exact ⟨p, rfl⟩
  have hall : (Held.entries held).takeWhile (fun _ => true) = Held.entries held :=
    List.takeWhile_eq_self_iff.mpr fun _ _ => rfl
  have hnone : held.dropWhile (fun _ => true) = [] := List.dropWhile_eq_nil_iff.mpr fun _ _ => rfl
  have hrun : Runs (applyDue ((Held.entries held).takeWhile fun _ => true))
      (builder ⟨held, some p⟩) () between := by rwa [hall]
  obtain ⟨q, rfl, hq, hwritten⟩ := poised_of_runs_applyDue (g := fun _ => true)
    (P := fun _ => True) (by intros; rfl) (by intros; trivial) hr.poised hrun
  rw [hnone] at hi hq hwritten
  cases hi
  exact ⟨q, rfl, hq.proper, hwritten⟩

end Reading

open ExprBuilder WrittenPiece in
/-- An expression that is read from pieces is the tree of a proper phrase that is written with
exactly those pieces. -/
theorem Phrase.exists_of_build {t : OperatorTable} {ps : List ExprPiece} {e : Expr}
    (h : build t ps = .ok e) :
    ∃ p : Phrase, p.expr = e ∧ p.Proper t ∧ pieces p.written = ps := by
  have hrun : Runs (do ps.forM (push t); close) start e
      ((do ps.forM (push t); close : Step Expr).run.run start).2 := Prod.ext h rfl
  obtain ⟨_, between, hf, hc⟩ := runs_bind_iff.mp hrun
  obtain ⟨r, rfl, hr, hw⟩ := Reading.exists_reading_of_runs (Reading.sound_start t) hf
  obtain ⟨p, hp, hproper, hwritten⟩ := Reading.exists_phrase_of_runs_close hr hc
  refine ⟨p, hp, hproper, ?_⟩
  rw [hwritten, hw]
  rfl

namespace ExprBuilder

open WrittenPiece

/-- In every table, pieces that are read as an expression are what a phrase of its tree writes.
Without the symbols of the plain groups they are the in-order yield of the tree, so no piece is
lost, repeated or moved. At every operator of the phrase the left operand, unless a group
encloses it, has an operator that is applied before this one; and this one is not applied before
the infix operator of a right or only operand that no group encloses. -/
theorem build_yields_and_respects {t : OperatorTable} {ps : List ExprPiece} {e : Expr}
    (h : build t ps = .ok e) :
    ∃ p : Phrase, p.expr = e ∧ p.ReadBy t ∧ pieces p.written = ps ∧
      e.Yields t (yield p.written) ∧ p.Respects := by
  obtain ⟨p, rfl, hp, hw⟩ := Phrase.exists_of_build h
  exact ⟨p, rfl, hp.readBy, hw, p.yields hp.readBy, hp.respects⟩

/-- The law at `-a.b + (c - d) * f(x, [])` in the standard table. -/
theorem build_yields_and_respects_nested :
    ∃ p : Phrase,
      p.expr = .binary (Operator.infixOp "+" 3 .left .add)
        (.unary (Operator.prefixOp "-" 1 .negate) (.member (.identifier "a") "b"))
        (.binary (Operator.infixOp "*" 2 .left .multiply)
          (.binary (Operator.infixOp "-" 3 .left .subtract) (.identifier "c") (.identifier "d"))
          (.invoke (.identifier "f") [.identifier "x", .list []])) ∧
      p.ReadBy .standard ∧
      pieces p.written = [.symbol "-", .identifier "a", .symbol ".", .identifier "b", .symbol "+",
        .symbol "(", .identifier "c", .symbol "-", .identifier "d", .symbol ")", .symbol "*",
        .identifier "f", .symbol "(", .identifier "x", .symbol ",", .symbol "[", .symbol "]",
        .symbol ")"] ∧
      p.expr.Yields .standard (yield p.written) ∧ p.Respects := by
  have h : build .standard [.symbol "-", .identifier "a", .symbol ".", .identifier "b",
      .symbol "+", .symbol "(", .identifier "c", .symbol "-", .identifier "d", .symbol ")",
      .symbol "*", .identifier "f", .symbol "(", .identifier "x", .symbol ",", .symbol "[",
      .symbol "]", .symbol ")"] =
    .ok (.binary (Operator.infixOp "+" 3 .left .add)
        (.unary (Operator.prefixOp "-" 1 .negate) (.member (.identifier "a") "b"))
        (.binary (Operator.infixOp "*" 2 .left .multiply)
          (.binary (Operator.infixOp "-" 3 .left .subtract) (.identifier "c") (.identifier "d"))
          (.invoke (.identifier "f") [.identifier "x", .list []]))) := rfl
  obtain ⟨p, hp, hr, hw, hy, hs⟩ := build_yields_and_respects h
  exact ⟨p, hp, hr, hw, by rwa [hp], hs⟩

end ExprBuilder

end TagTemplate
