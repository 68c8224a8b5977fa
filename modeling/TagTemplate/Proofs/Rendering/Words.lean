import TagTemplate.Proofs.Number.Exact
import TagTemplate.Proofs.Rendering.Loops

/-!
# Numbers as words

Operations on bits and repetitions look at the integer part of a number through a window of 32 bits.
The window is found by divisions and subtractions of numbers, none of which is rounded, so the word
is right for numbers of every size and of either sign.
-/

namespace TagTemplate

/-- What an operation on bits does with two words. -/
def Operation.onWords? : Operation → Option (Int32 → Int32 → Int32)
  | .bitAnd => some (· &&& ·)
  | .bitXor => some (· ^^^ ·)
  | .bitOr => some (· ||| ·)
  | .shiftLeft => some (· <<< ·)
  | .shiftRight => some (· >>> ·)
  | _ => none

/-- An operation on bits takes the words of its operands. -/
theorem Operation.binary_of_hasWord {op : Operation} {f : Int32 → Int32 → Int32}
    (hf : op.onWords? = some f) {l r : Value} {i j : Int} (hi : l.toNumber.HasWord i)
    (hj : r.toNumber.HasWord j) (c : Coercion) (collation : Collation) :
    op.binary c collation l r = .ofInt32 (f (.ofInt i) (.ofInt j)) := by
  rw [← hi.toInt32_eq, ← hj.toInt32_eq]
  cases op <;> cases hf <;> rfl

/-- A repetition begins with the word of its count as the number of times that are left. -/
theorem StandardDirective.repetition_of_hasWord {count : Value} {i : Int}
    (hi : count.toNumber.HasWord i) (rest : List Value) (c : Context) :
    repetition.execute 0 (count :: rest) .initial c =
      if 0 < i then go .evaluate (.countdown (i - 1)) c else go .terminate (.countdown i) c := by
  rw [← Number.hasWord_iff.mp hi]
  rfl

/-- **The words of numbers are exact.** Every number has exactly one word, which is the one that is
computed. The operations on bits take the words of their operands. A repetition begins with the word
of its count, and in a compiled template it evaluates its content as often as that says. -/
theorem Number.words_exact :
    (∀ x : Number, (∃! i, x.HasWord i) ∧ x.HasWord x.toInt32.toInt) ∧
    (∀ (v : Value) (i : Int), v.toNumber.HasWord i →
      Operation.bitNot.unary v = .ofInt32 (~~~Int32.ofInt i)) ∧
    (∀ (op : Operation) (f : Int32 → Int32 → Int32), op.onWords? = some f →
      ∀ (l r : Value) (i j : Int), l.toNumber.HasWord i → r.toNumber.HasWord j →
        ∀ (c : Coercion) (collation : Collation),
          op.binary c collation l r = .ofInt32 (f (.ofInt i) (.ofInt j))) ∧
    (∀ (count : Value) (i : Int), count.toNumber.HasWord i →
      ∀ (rest : List Value) (c : Context),
        StandardDirective.repetition.execute 0 (count :: rest) .initial c =
          if 0 < i then StandardDirective.go .evaluate (.countdown (i - 1)) c
          else StandardDirective.go .terminate (.countdown i) c) ∧
    ∀ (draft : Dialect.Draft) (d : Dialect) (source : String) (t : Template),
      Dialect.ofDraft draft = .ok d → Template.compile d source = .ok t →
      ∀ i : DirectiveInstance, i.node.Occurs t.forest → i.directive = .standard .repetition →
        ∀ (r last : Run) (log : List Evaluated), i.Evaluates .first r log last →
          ∃ count, i.Begins r [count] ∧ ∀ word : Int, count.toNumber.HasWord word →
            log.map Evaluated.index = List.replicate word.toNat 0 := by
  refine ⟨fun x => ?_, fun v i hi => ?_, fun op f hf l r i j hi hj => ?_, fun count i hi => ?_, ?_⟩
  · have hword : x.HasWord x.toInt32.toInt := hasWord_iff.mpr rfl
    exact ⟨⟨_, hword, fun i hi => (hasWord_iff.mp hi).symm⟩, hword⟩
  · rw [Operation.unary, Value.toInt32, hi.toInt32_eq]
  · exact Operation.binary_of_hasWord hf hi hj
  · exact StandardDirective.repetition_of_hasWord hi
  · intro draft d source t hd ht i hi hs r last log h
    obtain ⟨hfits, hfilled⟩ := (Template.everywhere_of_compile ht).of_occurs hi
    obtain ⟨count, hbegins, hlog⟩ := h.repetition_of_fits hd hfits hfilled hs
    refine ⟨count, hbegins, fun word hword => ?_⟩
    rw [hlog, Value.toInt32, Number.hasWord_iff.mp hword]

end TagTemplate
