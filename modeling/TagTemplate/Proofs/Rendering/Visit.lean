import TagTemplate.Proofs.Directive.Execution

/-!
# Visits of tags

A directive is driven from tag to tag. At each tag the cancellation flag is looked at, the slots
of the tag are evaluated, the directive is executed, and the text of its answer is written. All
this is one visit; it ends with the way to go, or with the error that ends the directive. What a
directive does beyond its visits is to go from one to the next, with the contents in between.
-/

namespace TagTemplate

namespace Run

/-- The text that is written for a text of the template. -/
def shown (r : Run) (s : String) : String :=
  if r.context.dialect.collapsesBlanks && !r.context.hasMark preformattedMark then
    Text.collapseBlanks s
  else s

theorem putText_eq (s : String) (r : Run) : putText s r = put (r.shown s) r := by
  unfold putText shown
  split <;> rfl

/-- Text is shown as it is where blanks are kept. -/
theorem shown_of_keeps {r : Run} (h : r.context.dialect.collapsesBlanks = false) (s : String) :
    r.shown s = s := by
  rw [shown, h, Bool.false_and]
  rfl

/-- The run inside a directive: one with several tags has a frame of its own. -/
def enter (tags : List LexedTag) (r : Run) : Run :=
  if 1 < tags.length then r.openFrame else r

/-- The run after a directive. -/
def leave (tags : List LexedTag) (r : Run) : Run :=
  if 1 < tags.length then r.closeFrame else r

variable {tags : List LexedTag} {r : Run}

@[simp] theorem host_enter : (r.enter tags).host = r.host := by
  unfold enter
  split <;> rfl

@[simp] theorem output_enter : (r.enter tags).output = r.output := by
  unfold enter
  split <;> rfl

@[simp] theorem flag_enter : (r.enter tags).context.flag = r.context.flag := by
  unfold enter
  split <;> rfl

@[simp] theorem options_enter : (r.enter tags).context.options = r.context.options := by
  unfold enter
  split <;> rfl

@[simp] theorem isCancelled_enter : (r.enter tags).isCancelled = r.isCancelled := by
  simp [isCancelled, Context.isCancelled]

@[simp] theorem host_leave : (r.leave tags).host = r.host := by
  unfold leave
  split <;> rfl

@[simp] theorem output_leave : (r.leave tags).output = r.output := by
  unfold leave
  split <;> rfl

@[simp] theorem flag_leave : (r.leave tags).context.flag = r.context.flag := by
  unfold leave
  split
  · unfold closeFrame Context.closeFrame Context.closeFrame?
    cases r.context.outer <;> rfl
  · rfl

/-- After a directive with several tags that changed its own frame only, the context is as it was
before. -/
theorem context_leave {last : Run} (ht : 1 < tags.length)
    (h : (r.enter tags).context.SameBelow last.context) :
    (last.leave tags).context = r.context := by
  rw [enter, if_pos ht] at h
  rw [leave, if_pos ht]
  exact h.closeFrame_eq

/-- After a directive that changed its top frame only, the context has changed at most in the top
frame. -/
theorem sameBelow_leave {last : Run} (h : (r.enter tags).context.SameBelow last.context) :
    r.context.SameBelow (last.leave tags).context := by
  by_cases ht : 1 < tags.length
  · rw [context_leave ht h]
    exact .refl r.context
  · rw [enter, if_neg ht] at h
    rw [leave, if_neg ht]
    exact h

end Run

namespace Directive

variable {d : Directive} {index : Nat} {tag : LexedTag} {state state' : DirectiveState}
  {r last : Run}

/-- The activation of a tag: its slots are evaluated, and the directive is executed. -/
def activate (d : Directive) (index : Nat) (tag : LexedTag) (state : DirectiveState) (r : Run) :
    Except EvalError Activation × DirectiveState × Run :=
  match (TagPart.values r.context tag.parts).on r.host with
  | (.error error, host) => (.error error, state, { r with host })
  | (.ok components, host) =>
    let (answer, stage) := d.execute index components ⟨state, r.context, host⟩
    (answer, stage.state, r.afterStage stage)

/-- All that is done at a tag, up to the way to go. -/
def visit (d : Directive) (index : Nat) (tag : LexedTag) (state : DirectiveState) (r : Run) :
    Except EvalError Flow × DirectiveState × Run :=
  if r.isCancelled then (.error .cancelled, state, r)
  else
    match d.activate index tag state r with
    | (.error error, state, r) => (.error error, state, r)
    | (.ok activation, state, r) =>
      match Run.putAny activation.emit r with
      | (.error error, r) => (.error error, state, r)
      | (.ok (), r) => (.ok activation.flow, state, r)

/-- A directive is driven by visiting the tag that it stands on and going where that leads. -/
theorem drive_eq (d : Directive) (tags : List LexedTag) (bodies : List Rendering)
    (state : DirectiveState) (index : Nat) (r : Run) :
    d.drive tags bodies state index r =
      match tags[index]? with
      | none => (.ok (), r)
      | some tag =>
        match d.visit index tag state r with
        | (.error error, _, r) => (.error error, r)
        | (.ok .terminate, _, r) => (.ok (), r)
        | (.ok .restart, state, r) => d.drive tags bodies state 0 r
        | (.ok .skip, state, r) => d.drive tags bodies state (index + 1) r
        | (.ok .evaluate, state, r) =>
          match bodies[index]? with
          | none => (.ok (), r)
          | some body =>
            match body r with
            | (.error error, r) => (.error error, r)
            | (.ok (), r) => d.drive tags bodies state (index + 1) r := by
  rw [drive]
  split
  · next ht => rw [ht]
  · next tag ht =>
    rw [ht]
    dsimp only [visit, activate, Eval.on]
    split
    · rfl
    · split
      · next hv => rw [hv]
      · next components host hv =>
        rw [hv]
        dsimp only
        split
        · next he => rw [he]
        · next activation stage he =>
          rw [he]
          dsimp only
          rcases Run.putAny activation.emit (r.afterStage stage) with ⟨error | u, r'⟩
          · rfl
          · dsimp only
            cases activation.flow with
            | terminate => rfl
            | restart => rfl
            | skip => rfl
            | evaluate => rfl

/-- A directive is driven inside its frame, and what comes of it is settled outside. -/
theorem render_eq (d : Directive) (position : Nat) (tags : List LexedTag)
    (bodies : List Rendering) (r : Run) :
    d.render position tags bodies r =
      (d.settle position (d.drive tags bodies .initial 0 (r.enter tags)).2.context.options
          (d.drive tags bodies .initial 0 (r.enter tags)).1,
        (d.drive tags bodies .initial 0 (r.enter tags)).2.leave tags) := by
  unfold render Run.enter Run.leave
  split <;> rfl

/-- An activation that gives an answer executed the directive on the values of the slots. -/
theorem exists_execute_of_activate {activation : Activation}
    (h : d.activate index tag state r = (.ok activation, state', last)) :
    ∃ components host stage,
      (TagPart.values r.context tag.parts).on r.host = (.ok components, host) ∧
      d.execute index components ⟨state, r.context, host⟩ = (.ok activation, stage) ∧
      state' = stage.state ∧ last = r.afterStage stage := by
  unfold activate at h
  split at h
  · cases h
  · next components host hv =>
    rw [Prod.mk.injEq, Prod.mk.injEq] at h
    obtain ⟨ha, rfl, rfl⟩ := h
    exact ⟨components, host, _, hv, Prod.ext ha rfl, rfl, rfl⟩

/-- A visit that finds a way to go has the flow of an activation. -/
theorem exists_activate_of_visit {flow : Flow}
    (h : d.visit index tag state r = (.ok flow, state', last)) :
    ∃ activation between, d.activate index tag state r = (.ok activation, state', between) ∧
      activation.flow = flow := by
  unfold visit at h
  split at h
  · cases h
  · split at h
    · cases h
    · next activation after between ha =>
      split at h <;> cases h
      exact ⟨activation, between, ha, rfl⟩

/-- A visit that leads to the next tag leaves less to do. -/
theorem effort_visit_next {tagCount : Nat} {flow : Flow} (hi : index < tagCount)
    (h : d.visit index tag state r = (.ok flow, state', last))
    (hf : flow = .evaluate ∨ flow = .skip) :
    Effort.Less (d.effort tagCount state' (index + 1)) (d.effort tagCount state index) := by
  obtain ⟨activation, between, ha, rfl⟩ := exists_activate_of_visit h
  obtain ⟨components, host, stage, -, he, rfl, -⟩ := exists_execute_of_activate ha
  exact effort_next hi he hf

/-- A visit that leads back to the first tag leaves less to do. -/
theorem effort_visit_restart {tagCount : Nat} (hi : index < tagCount)
    (h : d.visit index tag state r = (.ok .restart, state', last)) :
    Effort.Less (d.effort tagCount state' 0) (d.effort tagCount state index) := by
  obtain ⟨activation, between, ha, hf⟩ := exists_activate_of_visit h
  obtain ⟨components, host, stage, -, he, rfl, -⟩ := exists_execute_of_activate ha
  exact effort_restart hi he hf

/-- An activation changes at most the top frame. -/
theorem sameBelow_activate (d : Directive) (index : Nat) (tag : LexedTag) (state : DirectiveState)
    (r : Run) : r.context.SameBelow (d.activate index tag state r).2.2.context := by
  unfold activate
  split
  · exact .refl _
  · next components host hv => exact sameBelow_execute d index components ⟨state, r.context, host⟩

/-- An activation lowers no flag. -/
theorem isRaised_activate {flag : Nat} (h : r.host.isRaised flag = true) :
    (d.activate index tag state r).2.2.host.isRaised flag = true := by
  have ho := TagPart.orderly_values r.context tag.parts
  unfold activate
  split
  · next hv => exact ho.raised hv h
  · next hv => exact isRaised_execute (ho.raised hv h)

/-- An activation fails for a reason of its own. -/
theorem failsPlainly_activate (d : Directive) (index : Nat) (tag : LexedTag)
    (state : DirectiveState) (r : Run) : FailsPlainly (d.activate index tag state r).1 := by
  have ho := TagPart.orderly_values r.context tag.parts
  unfold activate
  split
  · next hv => exact .error (ho.plain hv)
  · next components host hv => exact failsPlainly_execute d index components _

/-- An activation writes nothing. -/
theorem output_activate (d : Directive) (index : Nat) (tag : LexedTag) (state : DirectiveState)
    (r : Run) : (d.activate index tag state r).2.2.output = r.output := by
  unfold activate
  split <;> rfl

end Directive

end TagTemplate
