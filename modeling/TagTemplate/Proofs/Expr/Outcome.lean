import TagTemplate.Proofs.Context.Reports
import TagTemplate.Proofs.Expr.Related

/-!
# Outcomes of evaluations

An evaluation that starts from what the host remembers ends with a result, or an error, and with
what the host remembers then. Whatever an expression does, it fails for a reason of its own and
lowers no cancellation flag that is raised.
-/

namespace TagTemplate

/-- Whether an error is the reason for which an activation itself fails: neither a cancellation nor
a refused text, and no report of a directive that failed. -/
def EvalError.isPlain : EvalError → Bool
  | .undefinedIdentifier _ | .unknownMember _ | .reflection _ _ | .failed _ => true
  | .cancelled | .directive _ _ _ | .write => false

/-- Whatever a result fails for is its own reason. -/
def FailsPlainly {α : Type} (result : Except EvalError α) : Prop :=
  ∀ error, result = .error error → error.isPlain = true

namespace FailsPlainly

variable {α β : Type} {x : Except EvalError α}

/-- A value is no failure. -/
theorem ok (a : α) : FailsPlainly (.ok a) := fun _ h => by cases h

/-- A failure for a reason of its own. -/
theorem error {error : EvalError} (h : error.isPlain = true) :
    FailsPlainly (.error error : Except EvalError α) := fun _ he => by
  cases he
  exact h

/-- Steps fail for reasons of their own if each does. -/
theorem bind {f : α → Except EvalError β} (hx : FailsPlainly x)
    (hf : ∀ a, FailsPlainly (f a)) : FailsPlainly (x >>= f) := by
  cases x with
  | error error => exact .error (hx error rfl)
  | ok a => exact hf a

/-- A changed result fails as the result does. -/
theorem map (hx : FailsPlainly x) (f : α → β) : FailsPlainly (x.map f) := by
  cases x with
  | error error => exact .error (hx error rfl)
  | ok a => exact .ok (f a)

end FailsPlainly

namespace Host

variable {host : Host} {flag : Nat}

/-- A raised flag stays raised when another one is. -/
theorem isRaised_raiseFlag (h : host.isRaised flag = true) (other : Nat) :
    (host.raiseFlag other).isRaised flag = true := by
  unfold raiseFlag
  split
  · exact h
  · simp only [isRaised, List.contains_cons, Bool.or_eq_true] at h ⊢
    exact .inr h

/-- Carrying a method out lowers no flag. -/
theorem isRaised_run (h : host.isRaised flag = true) (args : List Value) (method : Method) :
    (method.run args host).2.isRaised flag = true := by
  cases method with
  | give value => exact h
  | fail message => exact h
  | count counter limit other => cases limit with
    | none => exact h
    | some limit =>
      have hc : (host.increment counter).isRaised flag = true := h
      dsimp only [Method.run]
      split
      · exact isRaised_raiseFlag hc other
      · exact hc
  | arguments => exact h

/-- Invoking a method of a value lowers no flag. -/
theorem isRaised_invokeMember (h : host.isRaised flag = true) (nameCase : NameCase) (c : Coercion)
    (name : String) (args : List Value) (v : Value) :
    (v.invokeMember nameCase c name args host).2.isRaised flag = true := by
  cases v with
  | object o => cases o with
    | record id fields => exact h
    | host id text fields failing methods =>
      dsimp only [Value.invokeMember, Object.invoke]
      split
      · exact isRaised_run h args _
      · exact h
  | _ => exact h

end Host

namespace Context

variable {c : Context} {host after : Host} {name : String}

/-- What contexts report is a reason of its own. -/
theorem failsPlainly_of_reports {α : Type} {result : Except EvalError α}
    (h : FailsWithin c.options.Reports result) : FailsPlainly result := fun error he => by
  cases h error he <;> rfl

/-- A free name fails for a reason of its own. -/
theorem failsPlainly_resolve : FailsPlainly (c.resolve name) :=
  failsPlainly_of_reports reports_resolve

/-- A member fails for a reason of its own. -/
theorem failsPlainly_member {target : Value} : FailsPlainly (c.member target name) :=
  failsPlainly_of_reports reports_member

/-- An item fails for a reason of its own. -/
theorem failsPlainly_index {target key : Value} : FailsPlainly (c.index target key) :=
  failsPlainly_of_reports reports_index

/-- An invocation fails for a reason of its own. -/
theorem isPlain_of_invoke {target : Option Value} {args : List Value} {error : EvalError}
    (h : c.invoke target name args host = (.error error, after)) : error.isPlain = true := by
  have hf : FailsPlainly (c.invoke target name args host).1 := failsPlainly_of_reports reports_invoke
  rw [h] at hf
  exact hf error rfl

/-- An invocation lowers no flag. -/
theorem isRaised_of_invoke {target : Option Value} {args : List Value} {flag : Nat}
    {result : Except EvalError Value} (h : c.invoke target name args host = (result, after))
    (hf : host.isRaised flag = true) : after.isRaised flag = true := by
  unfold invoke at h
  dsimp only at h
  split at h <;> rw [Prod.mk.injEq] at h
  · rw [← h.2]
    exact Host.isRaised_invokeMember hf _ _ _ _ _
  · rw [← h.2]
    exact Host.isRaised_invokeMember hf _ _ _ _ _
  · rwa [← h.2]

end Context

namespace Eval

variable {α β : Type}

/-- What an evaluation gives when the host remembers `host`, and what the host remembers then. -/
def on (x : Eval α) (host : Host) : Except EvalError α × Host := x.run.run host

@[simp] theorem on_ofExcept (result : Except EvalError α) (host : Host) :
    on (ofExcept result) host = (result, host) := by
  cases result <;> rfl

@[simp] theorem on_invoking (c : Context) (target : Option Value) (name : String)
    (args : List Value) (host : Host) :
    on (c.invoking target name args) host = c.invoke target name args host :=
  on_ofExcept _ _

/-- An evaluation that goes on goes on from what the host remembers then. -/
theorem on_bind (x : Eval α) (f : α → Eval β) (host : Host) :
    on (x >>= f) host =
      match x.on host with
      | (.ok a, after) => (f a).on after
      | (.error error, after) => (.error error, after) := by
  unfold on StateT.run ExceptT.run
  simp only [bind, ExceptT.bind, ExceptT.mk, StateT.bind, ExceptT.bindCont]
  cases x host with
  | mk result after => cases result <;> rfl

/-- An evaluation fails for a reason of its own and lowers no flag. -/
structure Orderly (x : Eval α) : Prop where
  /-- It fails for a reason of its own. -/
  plain : ∀ {host after error}, x.on host = (.error error, after) → error.isPlain = true
  /-- It lowers no flag. -/
  raised : ∀ {host after result flag}, x.on host = (result, after) →
    host.isRaised flag = true → after.isRaised flag = true

namespace Orderly

/-- A value is given without fault. -/
theorem pure (a : α) : Orderly (pure a : Eval α) where
  plain h := by cases h
  raised h hf := by
    cases h
    exact hf

/-- A failure may have a reason of its own. -/
theorem throw {error : EvalError} (h : error.isPlain = true) :
    Orderly (throw error : Eval α) where
  plain hv := by
    cases hv
    exact h
  raised hv hf := by
    cases hv
    exact hf

/-- A result that needs no host may fail for a reason of its own. -/
theorem ofExcept {result : Except EvalError α} (hr : FailsPlainly result) :
    Orderly (Eval.ofExcept result) where
  plain h := by
    rw [on_ofExcept, Prod.mk.injEq] at h
    exact hr _ h.1
  raised h hf := by
    rw [on_ofExcept, Prod.mk.injEq] at h
    rwa [← h.2]

/-- What goes on in order after something in order is in order. -/
theorem bind {x : Eval α} {f : α → Eval β} (hx : Orderly x) (hf : ∀ a, Orderly (f a)) :
    Orderly (x >>= f) where
  plain h := by
    rw [on_bind] at h
    split at h
    · exact (hf _).plain h
    · next hv =>
      cases h
      exact hx.plain hv
  raised h hr := by
    rw [on_bind] at h
    split at h
    · next hv => exact (hf _).raised h (hx.raised hv hr)
    · next hv =>
      cases h
      exact hx.raised hv hr

/-- An invocation is in order. -/
theorem invoking (c : Context) (target : Option Value) (name : String) (args : List Value) :
    Orderly (c.invoking target name args) where
  plain h := by
    rw [on_invoking] at h
    exact Context.isPlain_of_invoke h
  raised h := by
    rw [on_invoking] at h
    exact Context.isRaised_of_invoke h

end Orderly

/-- Every step is in order. -/
theorem stepRelation_orderly (c : Context) :
    StepRelation (fun x _ => Orderly x) (fun _ => True) c c where
  pure := .pure
  bind := .bind
  resolve _ := .ofExcept Context.failsPlainly_resolve
  member _ _ := .ofExcept Context.failsPlainly_member
  index _ _ := .ofExcept Context.failsPlainly_index
  invoking := .invoking c
  isDefined _ := rfl
  dialect := rfl
  children _ _ _ := trivial
  uninvocable _ _ := .throw rfl

end Eval

/-- The slots of a tag are evaluated in order. -/
theorem TagPart.orderly_values (c : Context) (parts : List TagPart) :
    (values c parts).Orderly :=
  related_values (Eval.stepRelation_orderly c) parts

end TagTemplate
