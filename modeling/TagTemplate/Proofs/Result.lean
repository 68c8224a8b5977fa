/-!
# Results of steps that may fail

When a step that may fail succeeds, so did every step that it consists of; a change of its result
makes no failure. Two steps run parallel when they succeed with results, or fail with errors, that
are related.
-/

namespace TagTemplate

variable {ε α β γ : Type} {x : Except ε α}

/-- Two steps succeed together if the first does and the second does with its result. -/
theorem bind_eq_ok_iff {f : α → Except ε β} {b : β} :
    x >>= f = .ok b ↔ ∃ a, x = .ok a ∧ f a = .ok b := by
  cases x with
  | error error => exact ⟨nofun, nofun⟩
  | ok a => exact ⟨fun h => ⟨a, rfl, h⟩, fun ⟨_, rfl, h⟩ => h⟩

/-- A changed result is a result of the step that is changed. -/
theorem map_eq_ok_iff {f : α → β} {b : β} : x.map f = .ok b ↔ ∃ a, x = .ok a ∧ f a = b := by
  cases x with
  | error error => exact ⟨nofun, nofun⟩
  | ok a => exact ⟨fun h => ⟨a, rfl, Except.ok.inj h⟩, fun ⟨_, rfl, h⟩ => congrArg Except.ok h⟩

/-- A changed result fails if the step that is changed does. -/
theorem map_eq_error_iff {f : α → β} {error : ε} :
    x.map f = .error error ↔ x = .error error := by
  cases x <;> simp [Except.map]

/-- A result that is changed twice is changed once, by one change after the other. -/
theorem map_map (f : α → β) (g : β → γ) : (x.map f).map g = x.map fun a => g (f a) := by
  cases x <;> rfl

/-- Nothing in front of a result changes nothing. -/
theorem map_nil_append (x : Except ε (List α)) : x.map ([] ++ ·) = x := by
  cases x <;> rfl

/-- What a test finds in a result is there. -/
theorem exists_ok_of_any {p : α → Bool} (h : x.toOption.any p = true) :
    ∃ a, x = .ok a ∧ p a = true := by
  cases x with
  | error error => cases h
  | ok a => exact ⟨a, rfl, h⟩

/-- Both succeed, with results that are related, or both fail, with errors that are related. -/
inductive Parallel (onErrors : ε → ε → Prop) (onResults : α → β → Prop) :
    Except ε α → Except ε β → Prop
  /-- Both succeed. -/
  | ok {a : α} {b : β} (h : onResults a b) : Parallel onErrors onResults (.ok a) (.ok b)
  /-- Both fail. -/
  | error {e e' : ε} (h : onErrors e e') : Parallel onErrors onResults (.error e) (.error e')

end TagTemplate
