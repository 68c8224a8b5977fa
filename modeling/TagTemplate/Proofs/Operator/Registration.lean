import TagTemplate.Proofs.Operator.Unambiguous

/-!
# Registration

An operator is refused if one of its symbols already stands for something where the operator would
use it. So registration never gives a symbol a second reading, with one exception: the two symbols
of a group are compared with the table and not with each other. A group that closes with the symbol
that opens it is registered, and its symbol has two readings at either place. All other symbols have
at most one at each, and every operator is found as itself under each of its symbols.
-/

namespace TagTemplate

/-- Whether roles meet does not depend on their order. -/
theorem SymbolRole.meets_comm (r r' : SymbolRole) : r.meets r' = r'.meets r := by
  cases r <;> cases r' <;> rfl

/-- Two uses of a symbol by one operator are one use, or the two ends of a group that closes with
the symbol that opens it. -/
theorem Operator.eq_or_of_mem_uses {op : Operator} {use use' : String × SymbolRole}
    (hu : use ∈ op.uses) (hu' : use' ∈ op.uses) (hs : use.1 = use'.1) :
    use.2 = use'.2 ∨ op.shape = .group op.symbol := by
  unfold uses at hu hu'
  cases hshape : op.shape <;> rw [hshape] at hu hu' <;> grind

/-- An operator that has a closing symbol is a group. -/
theorem Operator.shape_of_close? {op : Operator} {close : String} (h : op.close? = some close) :
    op.shape = .group close := by
  unfold close? at h
  split at h
  · next hshape => rw [hshape, Option.some.inj h]
  · cases h

namespace OperatorTable

variable {t t' : OperatorTable} {s : String} {op : Operator} {r r' : SymbolRole}

/-- The readings of a symbol where an operand is expected. -/
def readingsBefore (t : OperatorTable) (s : String) : List Operator :=
  [t.prefixed? s, t.opened? s, t.closed? s].filterMap id

/-- The readings of a symbol where an operator is expected. -/
def readingsAfter (t : OperatorTable) (s : String) : List Operator :=
  [t.infixed? s, t.opened? s, t.closed? s, t.separator? s].filterMap id

/-- The table finds the operator as itself under each of its symbols. -/
def Finds (t : OperatorTable) (op : Operator) : Prop :=
  match op.shape with
  | .prefixed => t.prefixed? op.symbol = some op
  | .infixed _ => t.infixed? op.symbol = some op
  | .group close => t.opened? op.symbol = some op ∧ t.closed? close = some op
  | .separator => t.separator? op.symbol = some op

/-- The table after an attempt to register an operator: one that is refused changes nothing. -/
def attempt (t : OperatorTable) (op : Operator) : OperatorTable :=
  match t.register op with
  | .ok t' => t'
  | .error _ => t

/-- The table after attempts to register operators one after the other. -/
def attemptAll (t : OperatorTable) (ops : List Operator) : OperatorTable := ops.foldl attempt t

/-- Among the attempts to register operators one after the other is one to register this operator
that is not refused. -/
def Accepts (t : OperatorTable) (ops : List Operator) (op : Operator) : Prop :=
  ∃ earlier later t', ops = earlier ++ op :: later ∧
    (t.attemptAll earlier).register op = .ok t'

/-- A symbol has no reading in a role exactly if no operator uses it so. -/
theorem reads?_eq_none_iff : t.reads? r s = none ↔ ∀ op ∈ t.operators, (s, r) ∉ op.uses := by
  simp [reads?, List.find?_eq_none]

/-- A symbol has no reading before an operand exactly if it has none in any role there. -/
theorem readsAsOperand_eq_false_iff :
    t.readsAsOperand s = false ↔ ∀ r, r.isBeforeOperand = true → t.reads? r s = none := by
  simp only [readsAsOperand, ← reads?_prefixed, ← reads?_opening, ← reads?_closing,
    Bool.or_eq_false_iff, Option.isSome_eq_false_iff, Option.isNone_iff_eq_none]
  constructor
  · rintro ⟨⟨hprefixed, hopening⟩, hclosing⟩ r hr
    cases r <;> first | assumption | cases hr
  · exact fun h => ⟨⟨h _ rfl, h _ rfl⟩, h _ rfl⟩

/-- A symbol has no reading after an operand exactly if it has none in any role there. -/
theorem readsAsOperator_eq_false_iff :
    t.readsAsOperator s = false ↔ ∀ r, r.isAfterOperand = true → t.reads? r s = none := by
  simp only [readsAsOperator, ← reads?_infixed, ← reads?_opening, ← reads?_closing,
    ← reads?_separating, Bool.or_eq_false_iff, Option.isSome_eq_false_iff,
    Option.isNone_iff_eq_none]
  constructor
  · rintro ⟨⟨⟨hinfixed, hopening⟩, hclosing⟩, hseparating⟩ r hr
    cases r <;> first | assumption | cases hr
  · exact fun h => ⟨⟨⟨h _ rfl, h _ rfl⟩, h _ rfl⟩, h _ rfl⟩

/-- A symbol has no reading at all exactly if it has none in any role. -/
theorem reads_eq_false_iff :
    (t.readsAsOperand s || t.readsAsOperator s) = false ↔ ∀ r, t.reads? r s = none := by
  rw [Bool.or_eq_false_iff, readsAsOperand_eq_false_iff, readsAsOperator_eq_false_iff]
  constructor
  · rintro ⟨hbefore, hafter⟩ r
    cases r with
    | prefixed | opening | closing => exact hbefore _ rfl
    | infixed | separating => exact hafter _ rfl
  · exact fun h => ⟨fun r _ => h r, fun r _ => h r⟩

/-- An operator can be registered exactly if none of its symbols has a reading in a role that meets
the role in which the operator uses it. -/
theorem clash?_eq_none_iff :
    t.clash? op = none ↔
      ∀ use ∈ op.uses, ∀ r, use.2.meets r = true → t.reads? r use.1 = none := by
  have hprefixed : SymbolRole.prefixed.meets = SymbolRole.isBeforeOperand := by
    funext r; cases r <;> rfl
  have hinfixed : SymbolRole.infixed.meets = SymbolRole.isAfterOperand := by
    funext r; cases r <;> rfl
  have hseparating : SymbolRole.separating.meets = SymbolRole.isAfterOperand := by
    funext r; cases r <;> rfl
  have hends (r : SymbolRole) : SymbolRole.opening.meets r = true ∧
      SymbolRole.closing.meets r = true := by cases r <;> exact ⟨rfl, rfl⟩
  unfold clash? Operator.uses
  cases op.shape with
  | prefixed =>
    rw [List.forall_mem_singleton, hprefixed, ← readsAsOperand_eq_false_iff]
    cases t.readsAsOperand op.symbol <;> simp
  | infixed =>
    rw [List.forall_mem_singleton, hinfixed, ← readsAsOperator_eq_false_iff]
    cases t.readsAsOperator op.symbol <;> simp
  | separator =>
    rw [List.forall_mem_singleton, hseparating, ← readsAsOperator_eq_false_iff]
    cases t.readsAsOperator op.symbol <;> simp
  | group close =>
    simp only [List.forall_mem_cons, List.not_mem_nil, false_implies, implies_true, and_true,
      (hends _).1, (hends _).2, true_implies, ← reads_eq_false_iff]
    by_cases hopening : (t.readsAsOperand op.symbol || t.readsAsOperator op.symbol) = true <;>
      by_cases hclosing : (t.readsAsOperand close || t.readsAsOperator close) = true <;>
        simp [hopening, hclosing]

/-- An operator that is registered is put behind the others, and has not clashed with them. -/
theorem register_eq_ok_iff :
    t.register op = .ok t' ↔ t.clash? op = none ∧ t' = ⟨t.operators ++ [op]⟩ := by
  unfold register
  cases t.clash? op with
  | none => simp [eq_comm]
  | some clash => simp

/-- Registration keeps a table coherent. -/
theorem Coherent.register (h : t.Coherent) (hr : t.register op = .ok t') : t'.Coherent := by
  obtain ⟨hclash, rfl⟩ := register_eq_ok_iff.mp hr
  rw [clash?_eq_none_iff] at hclash
  -- No operator of the table uses a symbol of the new one in a role that meets its own.
  have hnew : ∀ op' ∈ t.operators, ∀ use ∈ op.uses, ∀ use' ∈ op'.uses, use.1 = use'.1 →
      use.2.meets use'.2 = true → False := by
    intro op' hm use hu use' hu' hs hmeets
    exact reads?_eq_none_iff.mp (hclash use hu _ hmeets) op' hm (by rwa [hs])
  intro op₁ hm₁ op₂ hm₂ use₁ hu₁ use₂ hu₂ hs hmeets
  have hplace {op' : Operator} (hm : op' ∈ t.operators ++ [op]) : op' ∈ t.operators ∨ op' = op := by
    simpa using hm
  rcases hplace hm₁ with hold₁ | rfl <;> rcases hplace hm₂ with hold₂ | rfl
  · exact h op₁ hold₁ op₂ hold₂ use₁ hu₁ use₂ hu₂ hs hmeets
  · rw [SymbolRole.meets_comm] at hmeets
    exact (hnew op₁ hold₁ use₂ hu₂ use₁ hu₁ hs.symm hmeets).elim
  · exact (hnew op₂ hold₂ use₁ hu₁ use₂ hu₂ hs hmeets).elim
  · exact ⟨rfl, Operator.eq_or_of_mem_uses hu₁ hu₂ hs⟩

/-- Registration puts no operator into a table twice. -/
theorem nodup_register (h : t.operators.Nodup) (hr : t.register op = .ok t') :
    t'.operators.Nodup := by
  obtain ⟨hclash, rfl⟩ := register_eq_ok_iff.mp hr
  have huse : ∃ use, use ∈ op.uses := by
    unfold Operator.uses
    cases op.shape <;> exact ⟨_, List.mem_cons_self⟩
  obtain ⟨use, hu⟩ := huse
  have hmeets : use.2.meets use.2 = true := by cases use.2 <;> rfl
  have hnone := clash?_eq_none_iff.mp hclash use hu use.2 hmeets
  have hnew : op ∉ t.operators := fun hm => reads?_eq_none_iff.mp hnone op hm hu
  exact List.nodup_append.mpr ⟨h, List.pairwise_singleton _ op, fun a ha b hb hab =>
    hnew (List.mem_singleton.mp hb ▸ hab ▸ ha)⟩

/-- Whatever registration keeps, attempts to register operators keep. -/
theorem attemptAll_induction {P : OperatorTable → Prop} (h : P t)
    (hstep : ∀ t t' op, P t → t.register op = .ok t' → P t') (ops : List Operator) :
    P (t.attemptAll ops) := by
  induction ops generalizing t with
  | nil => exact h
  | cons op ops ih =>
    refine ih (t := t.attempt op) ?_
    unfold attempt
    split
    · next t' hr => exact hstep t t' op h hr
    · exact h

/-- An attempt adds the operator if it is not refused, and no other one. -/
theorem mem_attempt_iff {op' : Operator} :
    op ∈ (t.attempt op').operators ↔
      op ∈ t.operators ∨ op' = op ∧ ∃ t', t.register op' = .ok t' := by
  unfold attempt
  split
  · next t' hr =>
    obtain ⟨-, rfl⟩ := register_eq_ok_iff.mp hr
    simp [hr, eq_comm]
  · next hr => simp [hr]

/-- The first attempt is not refused, or a later one is not. -/
theorem accepts_cons_iff {op' : Operator} {ops : List Operator} :
    t.Accepts (op' :: ops) op ↔
      (op' = op ∧ ∃ t', t.register op' = .ok t') ∨ (t.attempt op').Accepts ops op := by
  constructor
  · rintro ⟨earlier, later, t', hops, hr⟩
    cases earlier with
    | nil =>
      obtain ⟨rfl, -⟩ := List.cons_eq_cons.mp hops
      exact .inl ⟨rfl, t', hr⟩
    | cons first earlier =>
      obtain ⟨rfl, hrest⟩ := List.cons_eq_cons.mp hops
      exact .inr ⟨earlier, later, t', hrest, hr⟩
  · rintro (⟨rfl, t', hr⟩ | ⟨earlier, later, t', rfl, hr⟩)
    · exact ⟨[], ops, t', rfl, hr⟩
    · exact ⟨op' :: earlier, later, t', rfl, hr⟩

/-- After attempts to register operators a table has those it had and those that were accepted. -/
theorem mem_attemptAll_iff {ops : List Operator} :
    op ∈ (t.attemptAll ops).operators ↔ op ∈ t.operators ∨ t.Accepts ops op := by
  induction ops generalizing t with
  | nil =>
    have hnone : ¬t.Accepts [] op := by
      rintro ⟨earlier, later, t', hops, -⟩
      cases earlier <;> cases hops
    simp [attemptAll, hnone]
  | cons op' ops ih =>
    have hstep : op ∈ (t.attemptAll (op' :: ops)).operators ↔
        op ∈ (t.attempt op').operators ∨ (t.attempt op').Accepts ops op := ih
    rw [hstep, mem_attempt_iff, accepts_cons_iff, or_assoc]

/-- A coherent table finds each of its operators as itself. -/
theorem Coherent.finds (h : t.Coherent) (hm : op ∈ t.operators) : t.Finds op := by
  have hreads (s : String) (r : SymbolRole) (hu : (s, r) ∈ op.uses) : t.reads? r s = some op :=
    h.reads?_of_mem hm hu
  unfold Operator.uses at hreads
  unfold Finds
  cases hshape : op.shape with
  | prefixed =>
    rw [hshape] at hreads
    exact reads?_prefixed ▸ hreads _ _ List.mem_cons_self
  | infixed assoc =>
    rw [hshape] at hreads
    exact reads?_infixed ▸ hreads _ _ List.mem_cons_self
  | separator =>
    rw [hshape] at hreads
    exact reads?_separating ▸ hreads _ _ List.mem_cons_self
  | group close =>
    rw [hshape] at hreads
    exact ⟨reads?_opening ▸ hreads _ _ List.mem_cons_self,
      reads?_closing ▸ hreads _ _ (List.mem_cons_of_mem _ List.mem_cons_self)⟩

/-- A coherent table finds a group as itself under each of its symbols. -/
theorem Coherent.finds_group {close : String} (h : t.Coherent) (hm : op ∈ t.operators)
    (hshape : op.shape = .group close) :
    t.opened? op.symbol = some op ∧ t.closed? close = some op := by
  have hfinds := h.finds hm
  unfold Finds at hfinds
  rwa [hshape] at hfinds

/-- In a coherent table, what a symbol stands for in a role excludes the other roles that meet it,
unless a group closes with this symbol and opens with it. -/
theorem Coherent.reads?_eq_none (h : t.Coherent)
    (hends : ∀ op ∈ t.operators, op.close? = some s → op.symbol ≠ s)
    (hr : t.reads? r s = some op) (hmeets : r.meets r' = true) (hne : r ≠ r') :
    t.reads? r' s = none := by
  cases hr' : t.reads? r' s with
  | none => rfl
  | some op' =>
    obtain ⟨hm, hu⟩ := of_reads? hr
    obtain ⟨hm', hu'⟩ := of_reads? hr'
    obtain ⟨-, hequal | hshape⟩ := h op hm op' hm' _ hu _ hu' rfl hmeets
    · exact absurd hequal hne
    · have hsymbol : s = op.symbol := by
        unfold Operator.uses at hu
        rw [hshape] at hu
        obtain hu | hu : (s = op.symbol ∧ r = .opening) ∨ s = op.symbol ∧ r = .closing := by
          simpa using hu
        · exact hu.1
        · exact hu.1
      have hclose : op.close? = some s := by
        rw [Operator.close?, hshape, hsymbol]
      exact absurd hsymbol.symm (hends op hm hclose)

/-- In a coherent table the symbols that have at most one reading at either place are those with
which no group both opens and closes. -/
theorem Coherent.length_readings_le_iff (h : t.Coherent) (s : String) :
    (t.readingsBefore s).length ≤ 1 ∧ (t.readingsAfter s).length ≤ 1 ↔
      ∀ op ∈ t.operators, op.close? = some s → op.symbol ≠ s := by
  constructor
  · rintro ⟨hbefore, -⟩ op hm hclose hsymbol
    obtain ⟨hopened, hclosed⟩ := h.finds_group hm (Operator.shape_of_close? hclose)
    rw [hsymbol] at hopened
    unfold readingsBefore at hbefore
    rw [hopened, hclosed] at hbefore
    cases hprefixed : t.prefixed? s <;> simp [hprefixed] at hbefore
  · intro hends
    have hexcludes {r : SymbolRole} {op : Operator} (hr : t.reads? r s = some op) (r' : SymbolRole)
        (hmeets : r.meets r' = true) (hne : r ≠ r') : t.reads? r' s = none :=
      h.reads?_eq_none hends hr hmeets hne
    simp only [readingsBefore, readingsAfter, ← reads?_prefixed, ← reads?_infixed,
      ← reads?_opening, ← reads?_closing, ← reads?_separating]
    cases hopening : t.reads? .opening s with
    | some op =>
      rw [hexcludes hopening .prefixed rfl nofun,
        hexcludes hopening .infixed rfl nofun,
        hexcludes hopening .closing rfl nofun,
        hexcludes hopening .separating rfl nofun]
      exact ⟨Nat.le_refl 1, Nat.le_refl 1⟩
    | none =>
      cases hclosing : t.reads? .closing s with
      | some op =>
        rw [hexcludes hclosing .prefixed rfl nofun,
          hexcludes hclosing .infixed rfl nofun,
          hexcludes hclosing .separating rfl nofun]
        exact ⟨Nat.le_refl 1, Nat.le_refl 1⟩
      | none =>
        refine ⟨by cases t.reads? .prefixed s <;> simp, ?_⟩
        cases hinfixed : t.reads? .infixed s with
        | some op =>
          rw [hexcludes hinfixed .separating rfl nofun]
          exact Nat.le_refl 1
        | none => cases t.reads? .separating s <;> simp

end OperatorTable

end TagTemplate
