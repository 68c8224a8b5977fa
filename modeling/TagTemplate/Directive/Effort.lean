import TagTemplate.Directive.Execute

/-!
# The effort of a directive

A directive that goes on has less left to do afterwards. The measure has three parts: whether
the directive has begun to remember anything, the items, rounds or steps that are left, and the
tags that are left before the directive goes back to its first tag. A loop that stands on its
first tag has no tags left in this sense, as it takes an item before it goes on. The main
statements, `effort_next` and `effort_restart`, say that each step forward and each return make
the effort smaller in the lexicographic order.
-/

namespace TagTemplate

/-- The items, rounds or steps that are left to a directive. -/
def DirectiveState.work : DirectiveState → Nat
  | .loop _ items => items.left
  | .countdown left => left.toNat
  | .script left => Script.stepCount left
  | .initial | .branch _ | .foreign => 0

/-- One before anything is remembered, zero after. -/
def DirectiveState.unbegun : DirectiveState → Nat
  | .initial => 1
  | _ => 0

/-- Whether a directive can go back to its first tag. -/
def Directive.returns : Directive → Bool
  | .standard .forEach | .standard .separatedForEach | .standard .repetition => true
  | .standard _ => false
  | .scripted _ => true

/-- The tags that are left before the directive goes back to the first one. -/
def Directive.ahead (d : Directive) (tagCount index : Nat) : Nat :=
  if d.returns ∧ index = 0 then 0 else tagCount - index

/-- What a directive that stands on the tag at `index` has left to do. -/
def Directive.effort (d : Directive) (tagCount : Nat) (state : DirectiveState) (index : Nat) :
    Nat × Nat × Nat :=
  (state.unbegun, state.work, d.ahead tagCount index)

/-- The order on efforts. -/
def Effort.Less : Nat × Nat × Nat → Nat × Nat × Nat → Prop :=
  Prod.Lex (· < ·) (Prod.Lex (· < ·) (· < ·))

theorem Effort.wellFounded_less : WellFounded Effort.Less :=
  (Prod.lex ⟨_, Nat.lt_wfRel.wf⟩ (Prod.lex ⟨_, Nat.lt_wfRel.wf⟩ ⟨_, Nat.lt_wfRel.wf⟩)).wf

theorem Effort.less_of_first {a a' b b' c c' : Nat} (h : a' < a) :
    Effort.Less (a', b', c') (a, b, c) := Prod.Lex.left _ _ h

theorem Effort.less_of_second {a a' b b' c c' : Nat} (ha : a' = a) (h : b' < b) :
    Effort.Less (a', b', c') (a, b, c) := by
  subst ha
  exact Prod.Lex.right _ (Prod.Lex.left _ _ h)

theorem Effort.less_of_third {a a' b b' c c' : Nat} (ha : a' = a) (hb : b' = b) (h : c' < c) :
    Effort.Less (a', b', c') (a, b, c) := by
  subst ha hb
  exact Prod.Lex.right _ (Prod.Lex.right _ h)

theorem Sequence.lt_length_of_get? {α : Type} {number : Int → α} {s : Sequence α} {i : Nat}
    {item : α} (h : s.get? number i = some item) : i < s.length := by
  cases s with
  | list items => exact (List.getElem?_eq_some_iff.1 h).1
  | range first last =>
    simp only [Sequence.get?, Option.map_eq_some_iff] at h
    obtain ⟨n, hn, -⟩ := h
    unfold Sequence.rangeGet? at hn
    split at hn
    · rename_i hb
      have hp : Nat.pow 2 63 ≤ Nat.pow 2 64 - 1 := by decide
      simp only [Sequence.length, Sequence.rangeLength, Sequence.maxLength]
      omega
    · cases hn

theorem Cursor.left_of_next? {α : Type} {number : Int → α} {c rest : Cursor α} {item : α}
    (h : c.next? number = some (item, rest)) : rest.left < c.left := by
  simp only [Cursor.next?, Option.map_eq_some_iff, Prod.mk.injEq] at h
  obtain ⟨_, hp, -, rfl⟩ := h
  have := Sequence.lt_length_of_get? hp
  simp only [Cursor.left]
  omega

theorem Script.stepCount_of_takeStep {tag : Nat} {left rest : List (List ScriptStep)}
    {step : ScriptStep} (h : Script.takeStep tag left = some (step, rest)) :
    Script.stepCount rest < Script.stepCount left := by
  induction left generalizing tag rest with
  | nil => simp [Script.takeStep] at h
  | cons steps left ih =>
    cases tag with
    | zero =>
      cases steps with
      | nil => simp [Script.takeStep] at h
      | cons s steps =>
        simp only [Script.takeStep, Option.some.injEq, Prod.mk.injEq] at h
        obtain ⟨-, rfl⟩ := h
        simp [Script.stepCount]
    | succ tag =>
      simp only [Script.takeStep, Option.map_eq_some_iff, Prod.mk.injEq, Prod.exists] at h
      obtain ⟨_, left', ht, rfl, rfl⟩ := h
      have := ih ht
      simp only [Script.stepCount, List.foldr_cons] at this ⊢
      omega

theorem StandardDirective.nextItem_work {components : List Value} {state state' : DirectiveState}
    {c c' : Context} {a : Activation} (h : nextItem components state c = .ok (a, state', c'))
    (hf : a.flow ≠ .terminate) :
    state'.unbegun < state.unbegun ∨
      state'.unbegun = state.unbegun ∧ state'.work < state.work := by
  unfold nextItem at h
  split at h
  · cases h
  · simp only [go, Except.ok.injEq, Prod.mk.injEq] at h
    exact absurd (by rw [← h.1]) hf
  · rename_i name items hl
    split at h
    · rename_i item rest hn
      simp only [go, Except.ok.injEq, Prod.mk.injEq] at h
      obtain ⟨-, rfl, -⟩ := h
      cases state with
      | initial => exact .inl (by simp [DirectiveState.unbegun])
      | loop n its =>
        simp only [loopOf, Except.ok.injEq, Option.some.injEq, Prod.mk.injEq] at hl
        obtain ⟨rfl, rfl⟩ := hl
        exact .inr ⟨rfl, Cursor.left_of_next? hn⟩
      | branch _ => simp [loopOf] at hl
      | countdown _ => simp [loopOf] at hl
      | script _ => simp [loopOf] at hl
      | foreign => simp [loopOf] at hl
    · simp only [go, Except.ok.injEq, Prod.mk.injEq] at h
      exact absurd (by rw [← h.1]) hf

theorem StandardDirective.repeatOnce_work {components : List Value} {state state' : DirectiveState}
    {c c' : Context} {a : Activation} (h : repeatOnce components state c = .ok (a, state', c'))
    (hf : a.flow ≠ .terminate) :
    state'.unbegun < state.unbegun ∨
      state'.unbegun = state.unbegun ∧ state'.work < state.work := by
  unfold repeatOnce at h
  split at h
  · cases h
  · rename_i left ht
    split at h
    · rename_i hpos
      simp only [go, Except.ok.injEq, Prod.mk.injEq] at h
      obtain ⟨-, rfl, -⟩ := h
      cases state with
      | initial => exact .inl (by simp [DirectiveState.unbegun])
      | countdown n =>
        simp only [timesLeft, Except.ok.injEq, DirectiveState.countdown.injEq] at ht
        subst ht
        exact .inr ⟨rfl, by simp only [DirectiveState.work]; omega⟩
      | branch _ => simp [timesLeft] at ht
      | loop _ _ => simp [timesLeft] at ht
      | script _ => simp [timesLeft] at ht
      | foreign => simp [timesLeft] at ht
    · simp only [go, Except.ok.injEq, Prod.mk.injEq] at h
      exact absurd (by rw [← h.1]) hf
  · simp only [go, Except.ok.injEq, Prod.mk.injEq] at h
    exact absurd (by rw [← h.1]) hf


/-- Going forward uses up work, or leaves a tag behind that no loop starts with. -/
def Directive.Forward (d : Directive) (index : Nat) (before after : DirectiveState) : Prop :=
  after.unbegun < before.unbegun ∨
    after.unbegun = before.unbegun ∧
      (after.work < before.work ∨
        after.work = before.work ∧ ¬(d.returns = true ∧ index = 0))

theorem Directive.Forward.of_work {d : Directive} {index : Nat} {before after : DirectiveState}
    (h : after.unbegun < before.unbegun ∨
      after.unbegun = before.unbegun ∧ after.work < before.work) :
    d.Forward index before after := by
  rcases h with h | ⟨h, h'⟩
  · exact .inl h
  · exact .inr ⟨h, .inl h'⟩

theorem Directive.Forward.of_branch {d : Directive} {index : Nat} (before : DirectiveState)
    (taken : Bool) (hr : ¬(d.returns = true ∧ index = 0)) :
    d.Forward index before (.branch taken) := by
  have hu : (DirectiveState.branch taken).unbegun = 0 := rfl
  have hw : (DirectiveState.branch taken).work = 0 := rfl
  simp only [Directive.Forward, hu, hw, hr, not_false_eq_true, and_true]
  omega

theorem StandardDirective.forward {d : StandardDirective} {tag : Nat} {components : List Value}
    {state state' : DirectiveState} {c c' : Context} {a : Activation}
    (h : d.execute tag components state c = .ok (a, state', c'))
    (hf : a.flow = .evaluate ∨ a.flow = .skip) :
    (Directive.standard d).Forward tag state state' := by
  have hne : a.flow ≠ .terminate := by rcases hf with hf | hf <;> simp [hf]
  unfold StandardDirective.execute at h
  split at h
  case h_8 => exact .of_work (nextItem_work h hne)
  case h_10 => exact .of_work (nextItem_work h hne)
  case h_13 => exact .of_work (repeatOnce_work h hne)
  all_goals
    simp only [go, noTag, bind, Except.bind, pure, Except.pure] at h
    repeat' split at h
  all_goals simp only [Except.ok.injEq, Prod.mk.injEq, reduceCtorEq] at h
  all_goals obtain ⟨rfl, rfl, rfl⟩ := h
  all_goals try simp [Directive.Forward, Directive.returns] at *
  all_goals
    simpa [Directive.Forward, Directive.returns] using
      @Directive.Forward.of_branch (.standard .alternative) 0 _ _ (by simp [Directive.returns])

theorem StandardDirective.backward {d : StandardDirective} {tag : Nat}
    {components : List Value} {state state' : DirectiveState} {c c' : Context} {a : Activation}
    (h : d.execute tag components state c = .ok (a, state', c')) (hf : a.flow = .restart) :
    state' = state ∧ (Directive.standard d).returns = true ∧ tag ≠ 0 := by
  unfold StandardDirective.execute at h
  split at h
  all_goals
    simp only [nextItem, repeatOnce, go, noTag, bind, Except.bind, pure, Except.pure] at h
    repeat' split at h
  all_goals simp only [Except.ok.injEq, Prod.mk.injEq, reduceCtorEq] at h
  all_goals obtain ⟨rfl, rfl, rfl⟩ := h
  all_goals simp [Directive.returns] at *

theorem Script.execute_work {s : Script} {tag : Nat} {components : List Value}
    {stage stage' : Stage} {a : Activation}
    (h : s.execute tag components stage = (.ok a, stage')) (hf : a.flow ≠ .terminate) :
    stage'.state.unbegun < stage.state.unbegun ∨
      stage'.state.unbegun = stage.state.unbegun ∧ stage'.state.work < stage.state.work := by
  unfold Script.execute at h
  split at h
  · cases h
  · rename_i left hl
    split at h
    · simp only [Prod.mk.injEq, Except.ok.injEq] at h
      exact absurd (by rw [← h.1]) hf
    · rename_i step rest ht
      have hs : stage'.state = .script rest := by rw [← (Prod.mk.injEq ..).mp h |>.2]
      rw [hs]
      unfold Script.stepsLeft at hl
      split at hl
      · rename_i hi
        exact .inl (by simp [hi, DirectiveState.unbegun])
      · rename_i l hi
        cases hl
        exact .inr ⟨by rw [hi]; rfl, by rw [hi]; exact Script.stepCount_of_takeStep ht⟩
      · cases hl

theorem Directive.forward {d : Directive} {tag : Nat} {components : List Value}
    {stage stage' : Stage} {a : Activation}
    (h : d.execute tag components stage = (.ok a, stage'))
    (hf : a.flow = .evaluate ∨ a.flow = .skip) :
    d.Forward tag stage.state stage'.state := by
  cases d with
  | standard d =>
    simp only [Directive.execute] at h
    split at h
    · cases h
    · rename_i he
      simp only [Prod.mk.injEq, Except.ok.injEq] at h
      obtain ⟨rfl, rfl⟩ := h
      exact StandardDirective.forward he hf
  | scripted s =>
    exact .of_work (Script.execute_work h (by rcases hf with hf | hf <;> simp [hf]))

/-- A step to the next tag makes the effort smaller. -/
theorem Directive.effort_next {d : Directive} {tagCount index : Nat} {components : List Value}
    {stage stage' : Stage} {a : Activation} (hi : index < tagCount)
    (h : d.execute index components stage = (.ok a, stage'))
    (hf : a.flow = .evaluate ∨ a.flow = .skip) :
    Effort.Less (d.effort tagCount stage'.state (index + 1))
      (d.effort tagCount stage.state index) := by
  rcases Directive.forward h hf with h | ⟨hu, h | ⟨hw, hr⟩⟩
  · exact Effort.less_of_first h
  · exact Effort.less_of_second hu h
  · refine Effort.less_of_third hu hw ?_
    unfold Directive.ahead
    rw [if_neg hr, if_neg (by simp)]
    omega

/-- A return to the first tag makes the effort smaller. -/
theorem Directive.effort_restart {d : Directive} {tagCount index : Nat}
    {components : List Value} {stage stage' : Stage} {a : Activation} (hi : index < tagCount)
    (h : d.execute index components stage = (.ok a, stage')) (hf : a.flow = .restart) :
    Effort.Less (d.effort tagCount stage'.state 0) (d.effort tagCount stage.state index) := by
  cases d with
  | standard d =>
    simp only [Directive.execute] at h
    split at h
    · cases h
    · rename_i he
      simp only [Prod.mk.injEq, Except.ok.injEq] at h
      obtain ⟨rfl, rfl⟩ := h
      obtain ⟨hs, hr, ht⟩ := StandardDirective.backward he hf
      refine Effort.less_of_third (by rw [hs]) (by rw [hs]) ?_
      unfold Directive.ahead
      rw [if_pos ⟨hr, rfl⟩, if_neg (by simp [ht])]
      omega
  | scripted s =>
    rcases Script.execute_work h (by simp [hf]) with h | ⟨hu, hw⟩
    · exact Effort.less_of_first h
    · exact Effort.less_of_second hu hw

end TagTemplate
