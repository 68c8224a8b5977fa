import TagTemplate.Proofs.Expr.Outcome

/-!
# Evaluation under other options

Of the options only those that say what must be found matter to an expression, and they matter
only where something is not found. So an expression that has a value has the same value, with the
same effect on the host, where less must be found.
-/

namespace TagTemplate

/-- Whatever must be found under the second options must be found under the first. -/
structure EvalOptions.Covers (o o' : EvalOptions) : Prop where
  /-- Free names. -/
  names : o'.strictNames = true → o.strictNames = true
  /-- Members. -/
  members : o'.strictMembers = true → o.strictMembers = true

namespace Context

/-- The context with other options. -/
def under (c : Context) (o : EvalOptions) : Context := { c with options := o }

@[simp] theorem options_under (c : Context) (o : EvalOptions) : (c.under o).options = o := rfl

variable {c : Context} {o : EvalOptions} {name : String} {v : Value}

/-- A name that is missing without an error is missing without one where less must be found. -/
theorem missingName_under (ho : c.options.Covers o) (h : c.missingName name = .ok v) :
    (c.under o).missingName name = .ok v := by
  unfold missingName at h ⊢
  split at h
  · cases h
  · next hc => rwa [options_under, if_neg (mt ho.names hc)]

/-- A member that is missing without an error is missing without one where less must be found. -/
theorem missingMember_under (ho : c.options.Covers o) (h : c.missingMember name = .ok v) :
    (c.under o).missingMember name = .ok v := by
  unfold missingMember at h ⊢
  split at h
  · cases h
  · next hc => rwa [options_under, if_neg (mt ho.members hc)]

/-- The value of a name is the same where less must be found. -/
theorem resolve_under (ho : c.options.Covers o) (h : c.resolve name = .ok v) :
    (c.under o).resolve name = .ok v := by
  have hv : (c.under o).value? name = c.value? name := rfl
  unfold resolve at h ⊢
  rw [hv]
  split at h
  · cases h
  · exact h
  · exact missingName_under ho h

/-- The value of a member is the same where less must be found. -/
theorem member_under {target : Value} (ho : c.options.Covers o)
    (h : c.member target name = .ok v) : (c.under o).member target name = .ok v := by
  have hd : (c.under o).dialect = c.dialect := rfl
  unfold member at h ⊢
  rw [hd]
  split at h
  · cases h
  · exact h
  · exact missingMember_under ho h

/-- What is made of an answer is the same if what is made of its absence is. -/
theorem ofAnswer_eq {missing missing' : Except EvalError Value} {answer : MemberAnswer}
    (hm : ∀ v, missing = .ok v → missing' = .ok v) (h : ofAnswer name missing answer = .ok v) :
    ofAnswer name missing' answer = .ok v := by
  unfold ofAnswer at h ⊢
  split at h
  · cases h
  · exact h
  · exact hm v h

/-- The result of an invocation is the same where less must be found. -/
theorem invoke_under {target : Option Value} {args : List Value} {host after : Host}
    (ho : c.options.Covers o) (h : c.invoke target name args host = (.ok v, after)) :
    (c.under o).invoke target name args host = (.ok v, after) := by
  have hs : (c.under o).self? = c.self? := rfl
  have hd : (c.under o).dialect = c.dialect := rfl
  unfold invoke at h ⊢
  rw [hs, hd]
  dsimp only at h ⊢
  split at h <;> rw [Prod.mk.injEq] at h ⊢
  · exact ⟨ofAnswer_eq (fun _ => missingMember_under ho) h.1, h.2⟩
  · exact ⟨ofAnswer_eq (fun _ => missingName_under ho) h.1, h.2⟩
  · exact ⟨missingName_under ho h.1, h.2⟩

end Context

namespace Eval

variable {α β : Type}

/-- The second evaluation gives every value that the first one gives, with the same effect. -/
structure Refines (x y : Eval α) : Prop where
  /-- It gives the same value and leaves the host as the first one does. -/
  gives : ∀ {host a after}, x.on host = (.ok a, after) → y.on host = (.ok a, after)

namespace Refines

/-- An evaluation gives what it gives. -/
theorem refl (x : Eval α) : Refines x x := ⟨fun h => h⟩

/-- Results that need no host. -/
theorem ofExcept {x y : Except EvalError α} (h : ∀ a, x = .ok a → y = .ok a) :
    Refines (Eval.ofExcept x) (Eval.ofExcept y) where
  gives hx := by
    rw [on_ofExcept, Prod.mk.injEq] at hx ⊢
    exact ⟨h _ hx.1, hx.2⟩

/-- An invocation has the same result where less must be found. -/
theorem invoking {c : Context} {o : EvalOptions} (ho : c.options.Covers o)
    (target : Option Value) (name : String) (args : List Value) :
    Refines (c.invoking target name args) ((c.under o).invoking target name args) where
  gives h := by
    rw [on_invoking] at h ⊢
    exact Context.invoke_under ho h

/-- What goes on after a value goes on after the same value. -/
theorem bind {x y : Eval α} {f g : α → Eval β} (hx : Refines x y) (hf : ∀ a, Refines (f a) (g a)) :
    Refines (x >>= f) (y >>= g) where
  gives h := by
    rw [on_bind] at h ⊢
    split at h
    · next a between hv =>
      rw [hx.gives hv]
      exact (hf a).gives h
    · cases h

end Refines

/-- Every step gives the same value where less must be found. -/
theorem stepRelation_refines {c : Context} {o : EvalOptions} (ho : c.options.Covers o) :
    StepRelation Refines (fun _ => True) c (c.under o) where
  pure _ := .refl _
  bind := .bind
  resolve _ := .ofExcept fun _ => Context.resolve_under ho
  member _ _ := .ofExcept fun _ => Context.member_under ho
  index _ _ := .refl _
  invoking := .invoking ho
  isDefined _ := rfl
  dialect := rfl
  children _ _ _ := trivial
  uninvocable _ _ := .refl _

end Eval

/-- The slots of a tag have the same values where less must be found. -/
theorem TagPart.refines_values {c : Context} {o : EvalOptions} (ho : c.options.Covers o)
    (parts : List TagPart) : (values c parts).Refines (values (c.under o) parts) :=
  related_values (Eval.stepRelation_refines ho) parts

end TagTemplate
