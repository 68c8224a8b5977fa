import TagTemplate.Proofs.Expr.Outcome
import TagTemplate.Proofs.Result

/-!
# What an execution does

The execution of a directive changes the top frame and nothing below it, fails for a reason of
its own, and lowers no cancellation flag. Of the standard directives only three change the frame
at all: a loop binds its variable, an assignment binds the name of its tag, and the directive for
text kept as it is puts its mark.
-/

namespace TagTemplate

namespace Context

/-- The second context differs from the first at most in the top frame. -/
structure SameBelow (c c' : Context) : Prop where
  /-- The dialect is the same. -/
  dialect : c'.dialect = c.dialect
  /-- The frames around the top frame are the same. -/
  outer : c'.outer = c.outer
  /-- The self object is the same. -/
  self : c'.self? = c.self?
  /-- Errors are treated in the same way. -/
  options : c'.options = c.options
  /-- The flag that cancels is the same. -/
  flag : c'.flag = c.flag

namespace SameBelow

variable {c c' c'' : Context}

/-- A context differs from itself in nothing. -/
theorem refl (c : Context) : c.SameBelow c := ⟨rfl, rfl, rfl, rfl, rfl⟩

/-- Two changes of the top frame are one. -/
theorem trans (h : c.SameBelow c') (h' : c'.SameBelow c'') : c.SameBelow c'' :=
  ⟨h'.dialect.trans h.dialect, h'.outer.trans h.outer, h'.self.trans h.self,
    h'.options.trans h.options, h'.flag.trans h.flag⟩

/-- Binding a variable changes the top frame. -/
theorem setVariable (c : Context) (name : String) (v : Value) :
    c.SameBelow (c.setVariable name v) := ⟨rfl, rfl, rfl, rfl, rfl⟩

/-- Putting a mark changes the top frame. -/
theorem addMark (c : Context) (mark : String) : c.SameBelow (c.addMark mark) :=
  ⟨rfl, rfl, rfl, rfl, rfl⟩

/-- Closing a frame after changes in it gives back the context in which it was opened. -/
theorem closeFrame_eq (h : c.openFrame.SameBelow c') : c'.closeFrame = c := by
  have ho : c'.outer = c.top :: c.outer := h.outer
  simp only [closeFrame, closeFrame?, ho, Option.getD_some]
  rw [h.dialect, h.self, h.options, h.flag]
  rfl

end SameBelow

end Context

/-- A component is there, or it is reported missing. -/
theorem failsPlainly_componentAt (components : List Value) (i : Nat) :
    FailsPlainly (componentAt components i) := by
  unfold componentAt
  split
  · exact .ok _
  · exact .error rfl

/-- A name is there, or what is in its place is reported. -/
theorem failsPlainly_identifierAt (components : List Value) (i : Nat) :
    FailsPlainly (identifierAt components i) := by
  unfold identifierAt
  split
  · next hc => exact .error (failsPlainly_componentAt components i _ hc)
  · exact .ok _
  · exact .error rfl

namespace StandardDirective

variable {d : StandardDirective} {tag : Nat} {components : List Value}
  {state state' : DirectiveState} {c c' : Context} {activation : Activation}

/-- A loop fails for a reason of its own. -/
theorem failsPlainly_loopOf : FailsPlainly (loopOf components state) := by
  unfold loopOf
  split
  · exact (failsPlainly_identifierAt _ _).bind fun _ =>
      (failsPlainly_componentAt _ _).bind fun _ => .ok _
  · exact .ok _
  · exact .error rfl

/-- Taking the next item fails for a reason of its own. -/
theorem failsPlainly_nextItem : FailsPlainly (nextItem components state c) := by
  unfold nextItem
  split
  · next hl => exact .error (failsPlainly_loopOf _ hl)
  · exact .ok _
  · split
    · exact .ok _
    · exact .ok _

/-- A repetition fails for a reason of its own. -/
theorem failsPlainly_repeatOnce : FailsPlainly (repeatOnce components state c) := by
  have ht : FailsPlainly (timesLeft components state) := by
    unfold timesLeft
    split
    · exact (failsPlainly_componentAt _ _).bind fun _ => .ok _
    · exact .ok _
  unfold repeatOnce
  split
  · next hl => exact .error (ht _ hl)
  · split
    · exact .ok _
    · exact .ok _
  · exact .ok _

/-- A standard directive fails for a reason of its own. -/
theorem failsPlainly_execute : FailsPlainly (d.execute tag components state c) := by
  unfold execute
  split
  case h_1 => exact (failsPlainly_componentAt _ _).bind fun _ => .ok _
  case h_2 =>
    exact (failsPlainly_componentAt _ _).bind fun _ =>
      (failsPlainly_componentAt _ _).bind fun _ => .ok _
  case h_3 => exact (failsPlainly_componentAt _ _).bind fun _ => .ok _
  case h_5 => exact (failsPlainly_componentAt _ _).bind fun _ => .ok _
  case h_8 => exact failsPlainly_nextItem
  case h_10 => exact failsPlainly_nextItem
  case h_13 => exact failsPlainly_repeatOnce
  case h_17 =>
    exact (failsPlainly_identifierAt _ _).bind fun _ =>
      (failsPlainly_componentAt _ _).bind fun _ => .ok _
  case h_18 => exact .error rfl
  case h_6 => split <;> exact .ok _
  case h_11 => split <;> exact .ok _
  all_goals exact .ok _

/-- What the execution of a standard directive makes of the context. -/
inductive Changes (components : List Value) (c : Context) : StandardDirective → Context → Prop
  /-- Nothing is changed. -/
  | unchanged (d : StandardDirective) : Changes components c d c
  /-- A loop binds its variable. -/
  | forEach (name : String) (item : Value) :
    Changes components c .forEach (c.setVariable name item)
  /-- So does a loop with something between its rounds. -/
  | separatedForEach (name : String) (item : Value) :
    Changes components c .separatedForEach (c.setVariable name item)
  /-- The mark is put under which text is written as it is. -/
  | preformatted : Changes components c .preformatted (c.addMark preformattedMark)
  /-- The name in the first slot is bound. -/
  | assignment {name : String} (v : Value) (hn : identifierAt components 0 = .ok name) :
    Changes components c .assignment (c.setVariable name v)

/-- Taking the next item binds a variable or changes nothing. -/
theorem context_of_nextItem (h : nextItem components state c = .ok (activation, state', c')) :
    c' = c ∨ ∃ name item, c' = c.setVariable name item := by
  unfold nextItem go at h
  split at h
  · cases h
  · cases h
    exact .inl rfl
  · split at h <;> cases h
    · exact .inr ⟨_, _, rfl⟩
    · exact .inl rfl

/-- A repetition changes nothing. -/
theorem context_of_repeatOnce
    (h : repeatOnce components state c = .ok (activation, state', c')) : c' = c := by
  unfold repeatOnce go at h
  split at h
  · cases h
  · split at h <;> cases h <;> rfl
  · cases h
    rfl

/-- A standard directive changes nothing else in the context than what is listed. -/
theorem changes_of_execute (h : d.execute tag components state c = .ok (activation, state', c')) :
    Changes components c d c' := by
  unfold execute at h
  split at h
  case h_8 =>
    obtain rfl | ⟨name, item, rfl⟩ := context_of_nextItem h
    · exact .unchanged _
    · exact .forEach name item
  case h_10 =>
    obtain rfl | ⟨name, item, rfl⟩ := context_of_nextItem h
    · exact .unchanged _
    · exact .separatedForEach name item
  case h_13 =>
    obtain rfl := context_of_repeatOnce h
    exact .unchanged _
  case h_15 =>
    cases h
    exact .preformatted
  case h_17 =>
    obtain ⟨name, hn, h⟩ := bind_eq_ok_iff.mp h
    obtain ⟨v, hv, h⟩ := bind_eq_ok_iff.mp h
    cases h
    exact .assignment v hn
  all_goals
    simp only [go, noTag, bind, Except.bind, pure, Except.pure] at h
    repeat' split at h
  all_goals cases h
  all_goals exact .unchanged _

end StandardDirective

namespace Script

/-- The changes of a step are changes of the top frame. -/
theorem sameBelow_change (step : ScriptStep) (c : Context) : c.SameBelow (change step c) := by
  unfold change
  cases step.set <;> cases step.addMark <;> cases step.removeMark <;>
    exact ⟨rfl, rfl, rfl, rfl, rfl⟩

/-- A step fails for a reason of its own. -/
theorem failsPlainly_answer (step : ScriptStep) (components : List Value) (c : Context) :
    FailsPlainly (answer step components c) := by
  unfold answer
  split
  · exact .error rfl
  · refine FailsPlainly.map ?_ _
    unfold emission
    split
    · exact .ok _
    · exact .ok _
    · exact (failsPlainly_componentAt _ _).map _
    · exact (failsPlainly_identifierAt _ _).map _

end Script

namespace Directive

variable {d : Directive} {tag : Nat} {components : List Value} {stage after : Stage}

/-- An execution fails for a reason of its own. -/
theorem failsPlainly_execute (d : Directive) (tag : Nat) (components : List Value)
    (stage : Stage) : FailsPlainly (d.execute tag components stage).1 := by
  cases d with
  | standard d =>
    unfold execute
    dsimp only
    split
    · next he => exact .error (StandardDirective.failsPlainly_execute _ he)
    · exact .ok _
  | scripted s =>
    unfold execute Script.execute
    dsimp only
    split
    · exact .error rfl
    · split
      · exact .ok _
      · exact Script.failsPlainly_answer _ _ _

/-- An execution changes at most the top frame. -/
theorem sameBelow_execute (d : Directive) (tag : Nat) (components : List Value) (stage : Stage) :
    stage.context.SameBelow (d.execute tag components stage).2.context := by
  cases d with
  | standard d =>
    unfold execute
    dsimp only
    split
    · exact .refl _
    · next he =>
      have hc := StandardDirective.changes_of_execute he
      dsimp only
      cases hc with
      | unchanged => exact .refl _
      | forEach name item => exact .setVariable _ name item
      | separatedForEach name item => exact .setVariable _ name item
      | preformatted => exact .addMark _ _
      | assignment v hn => exact .setVariable _ _ v
  | scripted s =>
    unfold execute Script.execute
    dsimp only
    split
    · exact .refl _
    · split
      · exact .refl _
      · exact Script.sameBelow_change _ _

/-- An execution lowers no flag. -/
theorem isRaised_execute {flag : Nat} (h : stage.host.isRaised flag = true) :
    (d.execute tag components stage).2.host.isRaised flag = true := by
  cases d with
  | standard d =>
    unfold execute
    dsimp only
    split
    · exact h
    · exact h
  | scripted s =>
    unfold execute Script.execute
    dsimp only
    split
    · exact h
    · split
      · exact h
      · split
        · exact Host.isRaised_raiseFlag h _
        · exact h

end Directive

end TagTemplate
