import TagTemplate.Operator.Table

/-!
# What a table reads

A symbol that a table reads in some class is the symbol of a registered operator of that class;
a symbol that closes a group is the closing symbol of the operator that the table gives for it.
-/

namespace TagTemplate

namespace Operator

/-- Which of two equal operators goes first, for an infix operator. -/
def assoc? (op : Operator) : Option Associativity :=
  match op.shape with
  | .infixed assoc => some assoc
  | _ => none

/-- Whether the operator, while it waits, takes what stands before the infix operator `next`
rather than leave it to `next`. -/
def appliedBefore (op next : Operator) : Bool :=
  match next.assoc? with
  | some assoc => op.reducesBefore next.precedence assoc
  | none => false

/-- The symbol that ends a group; nothing for other operators. -/
def closing (op : Operator) : String := op.close?.getD ""

end Operator

namespace OperatorTable

variable {t : OperatorTable} {s : String} {op : Operator}

/-- A prefix reading of a symbol is a registered prefix operator with that symbol. -/
theorem of_prefixed? (h : t.prefixed? s = some op) :
    op ∈ t.operators ∧ op.symbol = s ∧ op.shape = .prefixed := by
  have hp := List.find?_some h
  simp only [Bool.and_eq_true, decide_eq_true_eq] at hp
  exact ⟨List.mem_of_find?_eq_some h, hp⟩

/-- An infix reading of a symbol is a registered infix operator with that symbol. -/
theorem of_infixed? (h : t.infixed? s = some op) :
    op ∈ t.operators ∧ op.symbol = s ∧ ∃ assoc, op.shape = .infixed assoc := by
  have hp := List.find?_some h
  split at hp
  · next assoc ho => exact ⟨List.mem_of_find?_eq_some h, of_decide_eq_true hp, assoc, ho⟩
  · cases hp

/-- A symbol that opens a group is the symbol of a registered group operator. -/
theorem of_opened? (h : t.opened? s = some op) :
    op ∈ t.operators ∧ op.symbol = s ∧ ∃ close, op.shape = .group close := by
  have hp := List.find?_some h
  split at hp
  · next close ho => exact ⟨List.mem_of_find?_eq_some h, of_decide_eq_true hp, close, ho⟩
  · cases hp

/-- A symbol that closes a group is the closing symbol of a registered group operator. -/
theorem of_closed? (h : t.closed? s = some op) :
    op ∈ t.operators ∧ op.shape = .group s := by
  have hp := List.find?_some h
  split at hp
  · next close ho =>
    rw [decide_eq_true_eq] at hp
    exact ⟨List.mem_of_find?_eq_some h, by rw [ho, hp]⟩
  · cases hp

/-- The symbol that closes a group is the operator's own closing symbol. -/
theorem closing_of_closed? (h : t.closed? s = some op) : op.closing = s := by
  unfold Operator.closing Operator.close?
  rw [(of_closed? h).2]
  rfl

end OperatorTable

end TagTemplate
