import TagTemplate.Proofs.Operator.Readings

/-!
# Tables without ambiguity

A symbol can be used in several roles: before an operand, between operands, at either end of a
group, between items. Two roles meet if there is a place, before an operand or after one, where a
symbol could have both. A table is coherent if two uses of a symbol whose roles meet are one use, or
the two ends of a group that closes with the symbol that opens it. Then the first operator that is
found for a symbol in a role is the only one. A table is unambiguous if no symbol has two uses whose
roles meet. Then an operator that is found also excludes all that could be found for the symbol in
the other roles of the place. The standard table is unambiguous.
-/

namespace TagTemplate

/-- What a symbol can stand for. -/
inductive SymbolRole where
  /-- A prefix operator. -/
  | prefixed
  /-- An infix operator. -/
  | infixed
  /-- The start of a group. -/
  | opening
  /-- The end of a group. -/
  | closing
  /-- A separator of items. -/
  | separating
  deriving DecidableEq

namespace SymbolRole

/-- Whether a symbol can have the role where an operand is expected. -/
def isBeforeOperand : SymbolRole → Bool
  | .prefixed | .opening | .closing => true
  | .infixed | .separating => false

/-- Whether a symbol can have the role where an operator is expected. -/
def isAfterOperand : SymbolRole → Bool
  | .infixed | .opening | .closing | .separating => true
  | .prefixed => false

/-- Whether there is a place where a symbol can have either role. -/
def meets (r r' : SymbolRole) : Bool :=
  (r.isBeforeOperand && r'.isBeforeOperand) || (r.isAfterOperand && r'.isAfterOperand)

end SymbolRole

/-- The symbols of an operator and the roles in which it uses them. -/
def Operator.uses (op : Operator) : List (String × SymbolRole) :=
  match op.shape with
  | .prefixed => [(op.symbol, .prefixed)]
  | .infixed _ => [(op.symbol, .infixed)]
  | .group close => [(op.symbol, .opening), (close, .closing)]
  | .separator => [(op.symbol, .separating)]

namespace OperatorTable

variable {t : OperatorTable} {s : String} {op : Operator} {r r' : SymbolRole}

/-- The operator for which a symbol stands in a role. -/
def reads? (t : OperatorTable) (r : SymbolRole) (s : String) : Option Operator :=
  t.operators.find? fun op => decide ((s, r) ∈ op.uses)

/-- A table reads a symbol in a role as an operator that uses it so. -/
theorem of_reads? (h : t.reads? r s = some op) : op ∈ t.operators ∧ (s, r) ∈ op.uses :=
  ⟨List.mem_of_find?_eq_some h, by simpa using List.find?_some h⟩

theorem reads?_prefixed : t.reads? .prefixed s = t.prefixed? s := by
  unfold reads? prefixed? Operator.uses
  congr 1
  funext op
  cases op.shape <;> simp [eq_comm]

theorem reads?_infixed : t.reads? .infixed s = t.infixed? s := by
  unfold reads? infixed? Operator.uses
  congr 1
  funext op
  cases op.shape <;> simp [eq_comm]

theorem reads?_opening : t.reads? .opening s = t.opened? s := by
  unfold reads? opened? Operator.uses
  congr 1
  funext op
  cases op.shape <;> simp [eq_comm]

theorem reads?_closing : t.reads? .closing s = t.closed? s := by
  unfold reads? closed? Operator.uses
  congr 1
  funext op
  cases op.shape <;> simp [eq_comm]

theorem reads?_separating : t.reads? .separating s = t.separator? s := by
  unfold reads? separator? Operator.uses
  congr 1
  funext op
  cases op.shape <;> simp [eq_comm]

/-- Two uses of a symbol whose roles meet are one use, or the two ends of a group that closes with
the symbol that opens it. -/
def Coherent (t : OperatorTable) : Prop :=
  ∀ op ∈ t.operators, ∀ op' ∈ t.operators, ∀ use ∈ op.uses, ∀ use' ∈ op'.uses,
    use.1 = use'.1 → use.2.meets use'.2 = true →
      op = op' ∧ (use.2 = use'.2 ∨ op.shape = .group op.symbol)

/-- In a coherent table an operator is what its symbols stand for in their roles. -/
theorem Coherent.reads?_of_mem (h : t.Coherent) (hm : op ∈ t.operators) (hu : (s, r) ∈ op.uses) :
    t.reads? r s = some op := by
  have hfound : (t.reads? r s).isSome := List.find?_isSome.mpr ⟨op, hm, decide_eq_true hu⟩
  obtain ⟨op', hr⟩ := Option.isSome_iff_exists.mp hfound
  obtain ⟨hm', hu'⟩ := of_reads? hr
  have hmeets : r.meets r = true := by cases r <;> rfl
  rw [hr, (h op hm op' hm' _ hu _ hu' rfl hmeets).1]

/-- An operator with an end of a group among its uses has no others. -/
theorem isEnd_of_mem_uses {r r' : SymbolRole} {s' : String} (hu : (s, r) ∈ op.uses)
    (hu' : (s', r') ∈ op.uses) (hr : r = .opening ∨ r = .closing) :
    r' = .opening ∨ r' = .closing := by
  unfold Operator.uses at hu hu'
  cases hshape : op.shape <;> rw [hshape] at hu hu' <;> grind

/-- In a coherent table a symbol at an end of a group is no operator and separates no items. -/
theorem Coherent.reads?_eq_none_of_isEnd (h : t.Coherent) {r r' : SymbolRole}
    (hr : t.reads? r s = some op) (hend : r = .opening ∨ r = .closing)
    (hend' : ¬(r' = .opening ∨ r' = .closing)) : t.reads? r' s = none := by
  cases hr' : t.reads? r' s with
  | none => rfl
  | some op' =>
    obtain ⟨hm, hu⟩ := of_reads? hr
    obtain ⟨hm', hu'⟩ := of_reads? hr'
    have hmeets : r.meets r' = true := by
      rcases hend with rfl | rfl <;> cases r' <;> rfl
    obtain ⟨rfl, -⟩ := h op hm op' hm' _ hu _ hu' rfl hmeets
    exact absurd (isEnd_of_mem_uses hu hu' hend) hend'

/-- A symbol that opens a group is no operator by itself. -/
theorem Coherent.of_opened? (h : t.Coherent) (hs : t.opened? s = some op) :
    t.prefixed? s = none ∧ t.infixed? s = none := by
  rw [← reads?_opening] at hs
  rw [← reads?_prefixed, ← reads?_infixed]
  exact ⟨h.reads?_eq_none_of_isEnd hs (.inl rfl) nofun,
    h.reads?_eq_none_of_isEnd hs (.inl rfl) nofun⟩

/-- A symbol that closes a group is no operator by itself and separates no items. -/
theorem Coherent.of_closed? (h : t.Coherent) (hs : t.closed? s = some op) :
    t.prefixed? s = none ∧ t.infixed? s = none ∧ t.separator? s = none := by
  rw [← reads?_closing] at hs
  rw [← reads?_prefixed, ← reads?_infixed, ← reads?_separating]
  exact ⟨h.reads?_eq_none_of_isEnd hs (.inr rfl) nofun,
    h.reads?_eq_none_of_isEnd hs (.inr rfl) nofun, h.reads?_eq_none_of_isEnd hs (.inr rfl) nofun⟩

/-- A symbol that separates items is no infix operator and opens no group. -/
theorem Coherent.of_separator? (h : t.Coherent) (hs : (t.separator? s).isSome) :
    t.infixed? s = none ∧ t.opened? s = none := by
  obtain ⟨sep, hsep⟩ := Option.isSome_iff_exists.mp hs
  rw [← reads?_separating] at hsep
  rw [← reads?_infixed, ← reads?_opening]
  constructor
  · cases hr : t.reads? .infixed s with
    | none => rfl
    | some op =>
      obtain ⟨hm, hu⟩ := of_reads? hsep
      obtain ⟨hm', hu'⟩ := of_reads? hr
      obtain ⟨rfl, hrole | hshape⟩ := h sep hm op hm' _ hu _ hu' rfl rfl
      · cases hrole
      · unfold Operator.uses at hu
        simp [hshape] at hu
  · cases hr : t.reads? .opening s with
    | none => rfl
    | some op =>
      have hnone : t.reads? .separating s = none := h.reads?_eq_none_of_isEnd hr (.inl rfl) nofun
      rw [hnone] at hsep
      cases hsep

/-- No symbol has two uses whose roles meet. -/
def Unambiguous (t : OperatorTable) : Prop :=
  ∀ op ∈ t.operators, ∀ op' ∈ t.operators, ∀ use ∈ op.uses, ∀ use' ∈ op'.uses,
    use.1 = use'.1 → use.2.meets use'.2 = true → op = op' ∧ use.2 = use'.2

/-- No symbol of the standard table has two uses whose roles meet. -/
theorem unambiguous_standard : standard.Unambiguous := by
  unfold Unambiguous
  decide

namespace Unambiguous

/-- Without ambiguity a table is coherent. -/
theorem coherent (h : t.Unambiguous) : t.Coherent :=
  fun op hm op' hm' use hu use' hu' hs hmeets =>
    have hsame := h op hm op' hm' use hu use' hu' hs hmeets
    ⟨hsame.1, .inl hsame.2⟩

/-- An operator is what its symbols stand for in their roles. -/
theorem reads?_of_mem (h : t.Unambiguous) (hm : op ∈ t.operators) (hu : (s, r) ∈ op.uses) :
    t.reads? r s = some op :=
  h.coherent.reads?_of_mem hm hu

/-- What a symbol stands for in a role excludes the other roles that meet it. -/
theorem reads?_eq_none (h : t.Unambiguous) (hr : t.reads? r s = some op)
    (hmeets : r.meets r' = true) (hne : r ≠ r') : t.reads? r' s = none := by
  cases hr' : t.reads? r' s with
  | none => rfl
  | some op' =>
    obtain ⟨hm, hu⟩ := of_reads? hr
    obtain ⟨hm', hu'⟩ := of_reads? hr'
    exact absurd (h op hm op' hm' _ hu _ hu' rfl hmeets).2 hne

/-- A symbol that opens a group is no operator by itself. -/
theorem of_opened? (h : t.Unambiguous) (hs : t.opened? s = some op) :
    t.prefixed? s = none ∧ t.infixed? s = none :=
  h.coherent.of_opened? hs

/-- A symbol that separates items is no infix operator and opens no group. -/
theorem of_separator? (h : t.Unambiguous) (hs : t.separator? s = some op) :
    t.infixed? s = none ∧ t.opened? s = none :=
  h.coherent.of_separator? (Option.isSome_of_eq_some hs)

/-- A symbol that closes a group is nothing else. -/
theorem of_closed? (h : t.Unambiguous) (hs : t.closed? s = some op) :
    t.prefixed? s = none ∧ t.infixed? s = none ∧ t.opened? s = none ∧ t.separator? s = none := by
  obtain ⟨hprefixed, hinfixed, hseparator⟩ := h.coherent.of_closed? hs
  rw [← reads?_closing] at hs
  have hopened : t.reads? .opening s = none := h.reads?_eq_none hs rfl nofun
  rw [reads?_opening] at hopened
  exact ⟨hprefixed, hinfixed, hopened, hseparator⟩

end Unambiguous

end OperatorTable

end TagTemplate
