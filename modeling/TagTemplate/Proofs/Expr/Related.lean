import TagTemplate.Rendering

/-!
# Related evaluations

An evaluation consists of values, of what its context tells about names, members and items, of
invocations, and of one step after another. A relation of evaluations, in one context or in two,
that all of these keep holds of the evaluations of every expression. So what is to be shown of
evaluations is shown of their steps, and the induction over expressions is made once.
-/

namespace TagTemplate

/-- The expressions that an expression is made up of. -/
def Expr.children : Expr → List Expr
  | .literal _ | .identifier _ => []
  | .unary _ operand => [operand]
  | .binary _ left right => [left, right]
  | .member target _ => [target]
  | .list items => items
  | .invoke target args => target :: args
  | .index target key => [target, key]

/-- A relation of evaluations in two contexts that every step keeps, for expressions with a property
that those have of which they are made up. -/
structure Eval.StepRelation (R : {α : Type} → Eval α → Eval α → Prop) (P : Expr → Prop)
    (c c' : Context) : Prop where
  /-- Values are related. -/
  pure : ∀ {α : Type} (a : α), R (pure a) (pure a)
  /-- One step after another is related if both are. -/
  bind : ∀ {α β : Type} {x y : Eval α} {f g : α → Eval β}, R x y → (∀ a, R (f a) (g a)) →
    R (x >>= f) (y >>= g)
  /-- What the contexts tell about a name. -/
  resolve : ∀ name, R (Eval.ofExcept (c.resolve name)) (Eval.ofExcept (c'.resolve name))
  /-- What they tell about a member. -/
  member : ∀ target name,
    R (Eval.ofExcept (c.member target name)) (Eval.ofExcept (c'.member target name))
  /-- What they tell about an item. -/
  index : ∀ target key,
    R (Eval.ofExcept (c.index target key)) (Eval.ofExcept (c'.index target key))
  /-- An invocation. -/
  invoking : ∀ target name args, R (c.invoking target name args) (c'.invoking target name args)
  /-- In both contexts the same names resolve. -/
  isDefined : ∀ name, c'.isDefined name = c.isDefined name
  /-- Both are contexts of one dialect. -/
  dialect : c'.dialect = c.dialect
  /-- What expressions with the property are made up of has it. -/
  children : ∀ {e}, P e → ∀ child ∈ e.children, P child
  /-- What cannot be invoked fails. -/
  uninvocable : ∀ {target args}, P (.invoke target args) → target.isInvocable = false →
    R (throw (.failed "invalid invocation target") : Eval Value)
      (throw (.failed "invalid invocation target"))

namespace Expr

variable {R : {α : Type} → Eval α → Eval α → Prop} {P : Expr → Prop} {c c' : Context}

/-- Operands are related if their evaluations are. -/
theorem related_operandValue (h : Eval.StepRelation R P c c') {byName : Bool} {e : Expr}
    {x y : Eval Value} (hx : R x y) : R (operandValue byName e x) (operandValue byName e y) := by
  unfold operandValue
  split
  · exact h.pure _
  · exact hx

mutual

/-- The evaluations of an expression with the property are related. -/
theorem related_eval (h : Eval.StepRelation R P c c') : (e : Expr) → P e → R (eval c e) (eval c' e)
  | .literal v, _ => h.pure v
  | .identifier name, _ => h.resolve name
  | .unary op operand, he => by
    have ho := related_eval h operand (h.children he operand (by simp [children]))
    unfold eval
    simp only [h.isDefined]
    split
    · exact h.pure _
    · exact h.bind (related_operandValue h ho) fun _ => h.pure _
  | .binary op left right, he => by
    have hl := related_eval h left (h.children he left (by simp [children]))
    have hr := related_eval h right (h.children he right (by simp [children]))
    unfold eval
    rw [h.dialect]
    refine h.bind (related_operandValue h hl) fun l => ?_
    split
    · exact h.pure _
    · exact h.bind (related_operandValue h hr) fun _ => h.pure _
  | .member target name, he => by
    have ht := related_eval h target (h.children he target (by simp [children]))
    unfold eval
    exact h.bind ht fun v => h.member v name
  | .list items, he => by
    have hi := related_evalAll h items (h.children he)
    unfold eval
    exact h.bind hi fun _ => h.pure _
  | .invoke target args, he => by
    have ht := h.children he target List.mem_cons_self
    have ha := related_evalAll h args fun e hm => h.children he e (List.mem_cons_of_mem target hm)
    unfold eval
    split
    · exact h.bind ha fun _ => h.invoking _ _ _
    · next object name =>
      have ho := related_eval h object (h.children ht object (by simp [children]))
      exact h.bind ho fun _ => h.bind ha fun _ => h.invoking _ _ _
    · next hname hmember =>
      refine h.uninvocable he ?_
      cases target with
      | identifier name => exact (hname name rfl).elim
      | member object name => exact (hmember object name rfl).elim
      | _ => rfl
  | .index target key, he => by
    have ht := related_eval h target (h.children he target (by simp [children]))
    have hk := related_eval h key (h.children he key (by simp [children]))
    unfold eval
    exact h.bind ht fun t => h.bind hk fun k => h.index t k

/-- So are those of expressions one after the other. -/
theorem related_evalAll (h : Eval.StepRelation R P c c') :
    (es : List Expr) → (∀ e ∈ es, P e) → R (evalAll c es) (evalAll c' es)
  | [], _ => h.pure []
  | e :: es, hp => by
    have he := related_eval h e (hp e List.mem_cons_self)
    have hes := related_evalAll h es fun e hm => hp e (List.mem_cons_of_mem _ hm)
    unfold evalAll
    exact h.bind he fun _ => h.bind hes fun _ => h.pure _

end

end Expr

/-- The evaluations of the slots of a tag are related. -/
theorem TagPart.related_values {R : {α : Type} → Eval α → Eval α → Prop} {c c' : Context}
    (h : Eval.StepRelation R (fun _ => True) c c') (parts : List TagPart) :
    R (values c parts) (values c' parts) := by
  induction parts with
  | nil => exact h.pure []
  | cons part parts ih => cases part with
    | keyword word => exact ih
    | name word => exact h.bind ih fun _ => h.pure _
    | expression e => exact h.bind (e.related_eval h trivial) fun _ => h.bind ih fun _ => h.pure _

end TagTemplate
