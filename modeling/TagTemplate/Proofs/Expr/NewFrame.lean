import TagTemplate.Proofs.Expr.Related

/-!
# Evaluation in a new frame

A frame that has just been opened binds nothing, so it hides nothing: every expression has in it the
value that it has outside.
-/

namespace TagTemplate

/-- Every step is the same in a new frame. -/
theorem Context.stepRelation_openFrame (c : Context) :
    Eval.StepRelation (fun x y => x = y) (fun _ => True) c.openFrame c where
  pure _ := rfl
  bind hx hf := by rw [hx, funext hf]
  resolve _ := rfl
  member _ _ := rfl
  index _ _ := rfl
  invoking _ _ _ := rfl
  isDefined _ := rfl
  dialect := rfl
  children _ _ _ := trivial
  uninvocable _ _ := rfl

/-- An expression is evaluated in a new frame as outside. -/
theorem Expr.eval_openFrame (c : Context) (e : Expr) : eval c.openFrame e = eval c e :=
  e.related_eval c.stepRelation_openFrame trivial

end TagTemplate
