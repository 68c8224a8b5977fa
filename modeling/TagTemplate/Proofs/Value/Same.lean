import TagTemplate.Proofs.Number.Nearest
import TagTemplate.Value

/-!
# Identity of values

Identity is symmetric, whichever way the sequences inside are stored: a list against a range is
compared as the range against the list. It is not reflexive, because NaN is not equal to itself; but
NaN is the only thing that keeps a value from being the same as itself. Objects are known by what
they are and not by what they hold, and a range holds integers only, so NaN can hide in lists alone.
-/

namespace TagTemplate

namespace Value

/-- NaN occurs in the value: it is NaN itself, or a list with an item in which NaN occurs. -/
inductive HasNaN : Value → Prop where
  /-- The number NaN. -/
  | number : HasNaN (.number .nan)
  /-- A list with such an item. -/
  | item {items : List Value} {v : Value} (hm : v ∈ items) (hv : HasNaN v) :
    HasNaN (.sequence (.list items))

/-- NaN occurs in a list exactly if it occurs in an item. -/
theorem hasNaN_list_iff {items : List Value} :
    HasNaN (.sequence (.list items)) ↔ ∃ v ∈ items, v.HasNaN := by
  constructor
  · intro h
    cases h with
    | item hm hv => exact ⟨_, hm, hv⟩
  · rintro ⟨v, hm, hv⟩
    exact .item hm hv

mutual

/-- Identity of values does not depend on their order. -/
theorem same_comm : (v w : Value) → v.same w = w.same v
  | .undefined, w => by cases w <;> simp [same]
  | .bool a, w => by cases w <;> simp [same, BEq.comm]
  | .number x, w => by cases w <;> simp [same, Number.equals_comm x]
  | .text s, w => by cases w <;> simp [same, BEq.comm]
  | .object o, w => by cases w <;> simp [same, BEq.comm]
  | .sequence s, .sequence t => by
    rw [same, same]
    exact sameSequence_comm s t
  | .sequence s, .undefined | .sequence s, .bool _ | .sequence s, .number _
  | .sequence s, .text _ | .sequence s, .object _ => by simp [same]

/-- Identity of sequences does not depend on their order. -/
theorem sameSequence_comm : (s t : Sequence Value) → sameSequence s t = sameSequence t s
  | .list xs, .list ys => by
    rw [sameSequence, sameSequence, BEq.comm, sameItems_comm xs ys]
  | .list xs, .range first last | .range first last, .list xs => by
    rw [sameSequence, sameSequence, BEq.comm]
  | .range a b, .range c d => by
    rw [sameSequence, sameSequence, BEq.comm (a := a), BEq.comm (a := b), Bool.and_comm (_ == 0)]

/-- Identity of items side by side does not depend on the order of the lists. -/
theorem sameItems_comm : (xs ys : List Value) → sameItems xs ys = sameItems ys xs
  | [], [] | [], _ :: _ | _ :: _, [] => rfl
  | x :: xs, y :: ys => by
    rw [sameItems, sameItems, same_comm x y, sameItems_comm xs ys]

end

mutual

/-- A value is the same as itself exactly if no NaN occurs in it. -/
theorem same_self_iff : (v : Value) → (v.same v = true ↔ ¬v.HasNaN)
  | .undefined | .bool _ | .text _ | .object _ => by simp [same]; nofun
  | .number x => by
    rw [same, Number.equals_self_iff]
    constructor
    · rintro hx ⟨⟩
      exact hx rfl
    · rintro h rfl
      exact h .number
  | .sequence (.list items) => by
    rw [same, sameSequence, beq_self_eq_true, Bool.true_and, sameItems_self_iff items,
      hasNaN_list_iff]
    simp only [not_exists, not_and]
  | .sequence (.range first last) => by
    simp only [same, sameSequence, beq_self_eq_true, Bool.and_self, Bool.true_or, true_iff]
    nofun

/-- Items are the same as themselves exactly if NaN occurs in none of them. -/
theorem sameItems_self_iff : (items : List Value) →
    (sameItems items items = true ↔ ∀ v ∈ items, ¬v.HasNaN)
  | [] => by simp [sameItems]
  | v :: items => by
    rw [sameItems, Bool.and_eq_true, same_self_iff v, sameItems_self_iff items,
      List.forall_mem_cons]

end

/-- Identity is symmetric, and a value is the same as itself exactly if no NaN occurs in it, however
deep in lists. -/
theorem same_comm_and_same_self_iff :
    (∀ v w : Value, v.same w = w.same v) ∧ ∀ v : Value, v.same v = true ↔ ¬v.HasNaN :=
  ⟨same_comm, same_self_iff⟩

/-- A NaN two lists deep keeps a value from being the same as itself, beside a range or not. -/
example : same (list [range 0 5, list [.number .nan]]) (list [range 0 5, list [.number .nan]]) =
    false := by
  decide

end Value

end TagTemplate
