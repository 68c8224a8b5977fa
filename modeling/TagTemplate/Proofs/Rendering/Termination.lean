import TagTemplate.Proofs.Dialect.Registered
import TagTemplate.Proofs.Rendering.Course

/-!
# Termination

A directive may go back to its first tag, so that no part of a template gets smaller while it is
evaluated. What does get smaller is what the directive has left to do: the items, rounds or steps
that it counted when it began, and the tags before it goes back. Whatever values its slots have later
and whatever its contents do, it goes on at most as often as it has tags, for each round that it
counted at the first activation.
-/

namespace TagTemplate

/-- Where an instance of a directive stands: what it remembers, and the tag. -/
structure Stand where
  /-- What the instance remembers. -/
  state : DirectiveState
  /-- The tag. -/
  index : Nat

/-- Where an instance stands before its first activation. -/
def Stand.first : Stand := ⟨.initial, 0⟩

namespace Directive

/-- How often a directive can go through its tags after a first activation on these components: once
for each item, or as often as is asked for, or once. A script is done with its tags when it has no
steps left. -/
def rounds (d : Directive) (components : List Value) : Nat :=
  match d with
  | .standard .forEach | .standard .separatedForEach =>
    ((components[1]?.bind Value.toSequence?).map Sequence.length).getD 0
  | .standard .repetition => (components[0]?.map fun v => v.toInt32.toInt.toNat).getD 0
  | .standard _ => 1
  | .scripted s => Script.stepCount s.steps

/-- An activation leads on, on some components, in some context and with some host: to the next tag,
at once or after the content, or back to the first one. -/
inductive Moves (d : Directive) (tagCount : Nat) (components : List Value) : Stand → Stand → Prop
  /-- It leads to the next tag. -/
  | onward {state : DirectiveState} {index : Nat} {c : Context} {host : Host}
    {activation : Activation} {stage : Stage} (hi : index < tagCount)
    (he : d.execute index components ⟨state, c, host⟩ = (.ok activation, stage))
    (hf : activation.flow = .evaluate ∨ activation.flow = .skip) :
    Moves d tagCount components ⟨state, index⟩ ⟨stage.state, index + 1⟩
  /-- It leads back to the first tag. -/
  | back {state : DirectiveState} {index : Nat} {c : Context} {host : Host}
    {activation : Activation} {stage : Stage} (hi : index < tagCount)
    (he : d.execute index components ⟨state, c, host⟩ = (.ok activation, stage))
    (hf : activation.flow = .restart) :
    Moves d tagCount components ⟨state, index⟩ ⟨stage.state, 0⟩

/-- Activations that lead on, so many, each on components, in a context and with a host of its
own. -/
inductive Passes (d : Directive) (tagCount : Nat) : Stand → Nat → Stand → Prop
  /-- There are none. -/
  | none (s : Stand) : Passes d tagCount s 0 s
  /-- One and then others. -/
  | move {components : List Value} {s s' last : Stand} {n : Nat}
    (h : d.Moves tagCount components s s') (h' : Passes d tagCount s' n last) :
    Passes d tagCount s (n + 1) last

variable {d : Directive} {tagCount : Nat} {components : List Value} {s s' last : Stand} {n : Nat}

/-- The tags that a directive can still pass once it has begun: all of them for each item, round or
step that is left, and those before it goes back. -/
def budget (d : Directive) (tagCount : Nat) (s : Stand) : Nat :=
  tagCount * s.state.work + d.ahead tagCount s.index

theorem ahead_succ (d : Directive) (tagCount index : Nat) :
    d.ahead tagCount (index + 1) = tagCount - (index + 1) :=
  if_neg fun h => Nat.succ_ne_zero index h.2

theorem ahead_zero (hr : d.returns = true) (tagCount : Nat) : d.ahead tagCount 0 = 0 :=
  if_pos ⟨hr, rfl⟩

/-- Less work makes up for tags ahead. -/
theorem mul_add_lt {w w' a : Nat} (hw : w' < w) (ha : a < tagCount) :
    tagCount * w' + a < tagCount * w := by
  calc tagCount * w' + a < tagCount * w' + tagCount := Nat.add_lt_add_left ha _
    _ = tagCount * (w' + 1) := (Nat.mul_succ tagCount w').symm
    _ ≤ tagCount * w := Nat.mul_le_mul_left tagCount hw

/-- A return to the first tag uses up a step, or leaves the tags behind that were ahead. -/
theorem back_of_execute {index : Nat} {stage stage' : Stage} {activation : Activation}
    (he : d.execute index components stage = (.ok activation, stage'))
    (hf : activation.flow = .restart) :
    d.returns = true ∧
      (stage'.state = stage.state ∧ index ≠ 0 ∨
        stage'.state.unbegun < stage.state.unbegun ∨
        stage'.state.unbegun = stage.state.unbegun ∧ stage'.state.work < stage.state.work) := by
  cases d with
  | standard d =>
    dsimp only [execute] at he
    split at he <;> cases he
    next he =>
    obtain ⟨hs, hr, hi⟩ := StandardDirective.backward he hf
    exact ⟨hr, .inl ⟨hs, hi⟩⟩
  | scripted s => exact ⟨rfl, .inr (Script.execute_work he (by simp [hf]))⟩

/-- A directive begins with a move, or the move is paid for. -/
theorem Moves.budget_lt (h : d.Moves tagCount components s s') :
    s'.state.unbegun < s.state.unbegun ∨
      s'.state.unbegun = s.state.unbegun ∧ d.budget tagCount s' < d.budget tagCount s := by
  cases h with
  | @onward state index c host activation stage hi he hf =>
    dsimp only [budget]
    rw [ahead_succ]
    have hforward : d.Forward index state stage.state := Directive.forward he hf
    rcases hforward with hu | ⟨hu, hw | ⟨hw, hr⟩⟩
    · exact .inl hu
    · have hlt : tagCount * stage.state.work + (tagCount - (index + 1)) < tagCount * state.work :=
        mul_add_lt hw (by omega)
      exact .inr ⟨hu, Nat.lt_add_right _ hlt⟩
    · have ha : d.ahead tagCount index = tagCount - index := if_neg hr
      refine .inr ⟨hu, ?_⟩
      rw [hw, ha]
      omega
  | @back state index c host activation stage hi he hf =>
    obtain ⟨hr, h⟩ := back_of_execute he hf
    dsimp only [budget] at h ⊢
    rw [ahead_zero hr]
    rcases h with ⟨hs, hn⟩ | hu | ⟨hu, hw⟩
    · have ha : d.ahead tagCount index = tagCount - index := if_neg fun h => hn h.2
      refine .inr ⟨by rw [hs], ?_⟩
      rw [hs, ha]
      omega
    · exact .inl hu
    · have hlt : tagCount * stage.state.work + 0 < tagCount * state.work :=
        mul_add_lt hw (by omega)
      exact .inr ⟨hu, Nat.lt_add_right _ hlt⟩

/-- A directive that has begun can pass no more tags than it can pay for. -/
theorem Passes.le_budget (h : d.Passes tagCount s n last) (hs : s.state.unbegun = 0) :
    n ≤ d.budget tagCount s := by
  induction h with
  | none => exact Nat.zero_le _
  | move h _ ih =>
    rcases h.budget_lt with hu | ⟨hu, hb⟩
    · omega
    · have hn := ih (hu.trans hs)
      omega

/-- A directive that never goes back passes each tag once. -/
theorem Passes.le_ahead (h : d.Passes tagCount s n last) (hr : d.returns = false) :
    n ≤ tagCount - s.index := by
  induction h with
  | none => exact Nat.zero_le _
  | move h _ ih =>
    cases h with
    | onward hi he hf =>
      dsimp only at ih ⊢
      omega
    | back hi he hf =>
      rw [(back_of_execute he hf).1] at hr
      cases hr

end Directive

namespace StandardDirective

variable {components : List Value} {c c' : Context} {state' : DirectiveState}
  {activation : Activation}

/-- The first activation of a loop counts its items and takes one of them. -/
theorem work_of_nextItem (h : nextItem components .initial c = .ok (activation, state', c'))
    (hf : activation.flow ≠ .terminate) :
    state'.unbegun = 0 ∧
      state'.work < ((components[1]?.bind Value.toSequence?).map Sequence.length).getD 0 := by
  unfold nextItem at h
  split at h
  · cases h
  · cases h
    exact absurd rfl hf
  · next name items hl =>
    obtain ⟨name', -, hl⟩ := bind_eq_ok_iff.mp hl
    obtain ⟨source, hsource, hl⟩ := bind_eq_ok_iff.mp hl
    have hsome : components[1]? = some source := by
      unfold componentAt at hsource
      split at hsource <;> cases hsource
      assumption
    cases hseq : source.toSequence? with
    | none =>
      rw [hseq] at hl
      cases hl
    | some sequence =>
      rw [hseq] at hl
      cases hl
      split at h
      · next item rest hnext =>
        cases h
        have hleft := Cursor.left_of_next? hnext
        rw [hsome, Option.bind_some, hseq]
        exact ⟨rfl, hleft⟩
      · cases h
        exact absurd rfl hf

/-- The first activation of a repetition counts the rounds and begins one of them. -/
theorem work_of_repeatOnce (h : repeatOnce components .initial c = .ok (activation, state', c'))
    (hf : activation.flow ≠ .terminate) :
    state'.unbegun = 0 ∧
      state'.work < (components[0]?.map fun v => v.toInt32.toInt.toNat).getD 0 := by
  unfold repeatOnce at h
  split at h
  · cases h
  · next left hl =>
    obtain ⟨count, hcount, hl⟩ := bind_eq_ok_iff.mp hl
    cases hl
    have hsome : components[0]? = some count := by
      unfold componentAt at hcount
      split at hcount <;> cases hcount
      assumption
    split at h
    · cases h
      rw [hsome]
      refine ⟨rfl, ?_⟩
      dsimp only [DirectiveState.work, Option.map_some, Option.getD_some]
      omega
    · cases h
      exact absurd rfl hf
  · cases h
    exact absurd rfl hf

end StandardDirective

namespace Directive

variable {d : Directive} {tagCount : Nat} {components : List Value} {first last : Stand} {n : Nat}

/-- The first activation of a directive that goes on and may go back counts the rounds and begins
one of them. -/
theorem work_of_first {c : Context} {host : Host} {activation : Activation} {stage : Stage}
    (hr : d.returns = true)
    (he : d.execute 0 components ⟨.initial, c, host⟩ = (.ok activation, stage))
    (hf : activation.flow ≠ .terminate) :
    stage.state.unbegun = 0 ∧ stage.state.work < d.rounds components := by
  cases d with
  | standard d =>
    dsimp only [execute] at he
    split at he <;> cases he
    next he =>
    cases d with
    | forEach => exact StandardDirective.work_of_nextItem he hf
    | separatedForEach => exact StandardDirective.work_of_nextItem he hf
    | repetition => exact StandardDirective.work_of_repeatOnce he hf
    | _ => cases hr
  | scripted s =>
    dsimp only [execute, Script.execute, Script.stepsLeft] at he
    split at he
    · cases he
      exact absurd rfl hf
    · next ht =>
      obtain rfl := congrArg Prod.snd he
      exact ⟨rfl, Script.stepCount_of_takeStep ht⟩

/-- From the first tag on, a directive goes on at most as often as it has tags, for each round that
the first activation counts. -/
theorem Passes.le_rounds (h : d.Moves tagCount components .first first)
    (h' : d.Passes tagCount first n last) : n + 1 ≤ tagCount * d.rounds components := by
  cases hr : d.returns with
  | false =>
    have hrounds : d.rounds components = 1 := by
      cases d with
      | standard d => cases d <;> first | rfl | cases hr
      | scripted s => cases hr
    rw [hrounds, Nat.mul_one]
    exact (Passes.move h h').le_ahead hr
  | true =>
    have hpaid : first.state.unbegun = 0 ∧ d.budget tagCount first < tagCount * d.rounds components := by
      cases h with
      | onward hi he hf =>
        obtain ⟨hu, hw⟩ := work_of_first hr he (by rcases hf with hf | hf <;> simp [hf])
        refine ⟨hu, ?_⟩
        dsimp only [budget]
        rw [ahead_succ]
        exact mul_add_lt hw (by omega)
      | back hi he hf =>
        obtain ⟨hu, hw⟩ := work_of_first hr he (by simp [hf])
        refine ⟨hu, ?_⟩
        dsimp only [budget]
        rw [ahead_zero hr]
        exact mul_add_lt hw hi
    have hn := h'.le_budget hpaid.1
    omega

end Directive

namespace DirectiveInstance

variable {i : DirectiveInstance} {s s' last : Stand} {r r' : Run} {n : Nat}

/-- A visit leads an instance on, to the next tag or back to the first one; if the content after the
tag is evaluated, it does not fail. -/
inductive Steps (i : DirectiveInstance) : Stand → Run → Stand → Run → Prop
  /-- It goes back to the first tag. -/
  | restarted {state state' : DirectiveState} {index : Nat} {tag : LexedTag} {r between : Run}
    (ht : i.tags[index]? = some tag)
    (hv : i.directive.visit index tag state r = (.ok .restart, state', between)) :
    Steps i ⟨state, index⟩ r ⟨state', 0⟩ between
  /-- It goes to the next tag at once. -/
  | skipped {state state' : DirectiveState} {index : Nat} {tag : LexedTag} {r between : Run}
    (ht : i.tags[index]? = some tag)
    (hv : i.directive.visit index tag state r = (.ok .skip, state', between)) :
    Steps i ⟨state, index⟩ r ⟨state', index + 1⟩ between
  /-- It goes to the next tag after the content. -/
  | entered {state state' : DirectiveState} {index : Nat} {tag : LexedTag} {body : Forest}
    {r between after : Run} (ht : i.tags[index]? = some tag)
    (hv : i.directive.visit index tag state r = (.ok .evaluate, state', between))
    (hb : i.bodies[index]? = some body) (h : Node.renderAll body between = (.ok (), after)) :
    Steps i ⟨state, index⟩ r ⟨state', index + 1⟩ after

/-- An instance is led on, so many times. -/
inductive Goes (i : DirectiveInstance) : Stand → Run → Nat → Stand → Run → Prop
  /-- It stays where it is. -/
  | none (s : Stand) (r : Run) : Goes i s r 0 s r
  /-- It is led on once and then further. -/
  | step {s s' last : Stand} {r r' r'' : Run} {n : Nat} (h : i.Steps s r s' r')
    (h' : Goes i s' r' n last r'') : Goes i s r (n + 1) last r''

/-- A visit that leads on is an activation that does. -/
theorem moves_of_visit {index : Nat} {tag : LexedTag} {state state' : DirectiveState} {flow : Flow}
    (ht : i.tags[index]? = some tag)
    (hv : i.directive.visit index tag state r = (.ok flow, state', r')) :
    (flow = .evaluate ∨ flow = .skip → ∃ components,
      i.directive.Moves i.tags.length components ⟨state, index⟩ ⟨state', index + 1⟩) ∧
    (flow = .restart → ∃ components,
      i.directive.Moves i.tags.length components ⟨state, index⟩ ⟨state', 0⟩) := by
  have hi : index < i.tags.length := (List.getElem?_eq_some_iff.mp ht).1
  obtain ⟨activation, between, ha, rfl⟩ := Directive.exists_activate_of_visit hv
  obtain ⟨components, host, stage, -, he, rfl, -⟩ := Directive.exists_execute_of_activate ha
  exact ⟨fun hf => ⟨components, .onward hi he hf⟩, fun hf => ⟨components, .back hi he hf⟩⟩

theorem Steps.moves (h : i.Steps s r s' r') :
    ∃ components, i.directive.Moves i.tags.length components s s' := by
  cases h with
  | restarted ht hv => exact (moves_of_visit ht hv).2 rfl
  | skipped ht hv => exact (moves_of_visit ht hv).1 (.inr rfl)
  | entered ht hv => exact (moves_of_visit ht hv).1 (.inl rfl)

/-- Whatever its contents do, an instance is led on by activations. -/
theorem Goes.passes (h : i.Goes s r n last r') : i.directive.Passes i.tags.length s n last := by
  induction h with
  | none => exact .none _
  | step h _ ih =>
    obtain ⟨components, hm⟩ := h.moves
    exact .move hm ih

/-- An instance is led no further. -/
def Halts (i : DirectiveInstance) (s : Stand) (r : Run) : Prop := ∀ s' r', ¬i.Steps s r s' r'

/-- Behind its last tag an instance is led no further. -/
theorem halts_of_past {state : DirectiveState} {index : Nat} (ht : i.tags[index]? = none) :
    i.Halts ⟨state, index⟩ r := by
  intro s' r' h
  cases h with
  | restarted ht' | skipped ht' | entered ht' =>
    rw [ht] at ht'
    cases ht'

/-- A visit that fails leads no further, nor does one that ends the directive or is followed by a
content that is missing or fails. -/
theorem halts_of_visit {index : Nat} {tag : LexedTag} {state state' : DirectiveState}
    {between : Run} {result : Except EvalError Flow} (ht : i.tags[index]? = some tag)
    (hv : i.directive.visit index tag state r = (result, state', between))
    (h : ∀ flow, result = .ok flow → flow = .terminate ∨ flow = .evaluate ∧
      ∀ body after, i.bodies[index]? = some body → Node.renderAll body between ≠ (.ok (), after)) :
    i.Halts ⟨state, index⟩ r := by
  intro s' r' hstep
  cases hstep with
  | restarted ht' hv' =>
    rw [ht, Option.some.injEq] at ht'
    subst ht'
    rw [hv] at hv'
    cases hv'
    rcases h _ rfl with hf | ⟨hf, -⟩ <;> cases hf
  | skipped ht' hv' =>
    rw [ht, Option.some.injEq] at ht'
    subst ht'
    rw [hv] at hv'
    cases hv'
    rcases h _ rfl with hf | ⟨hf, -⟩ <;> cases hf
  | entered ht' hv' hb hr =>
    rw [ht, Option.some.injEq] at ht'
    subst ht'
    rw [hv] at hv'
    cases hv'
    rcases h _ rfl with hf | ⟨-, hn⟩
    · cases hf
    · exact hn _ _ hb hr

end DirectiveInstance

/-- Along the course of an instance it is led on so many times, and then no further. -/
theorem Course.exists_goes {i : DirectiveInstance} {state : DirectiveState} {index : Nat}
    {r last : Run} {trace : List Moment} {result : Except EvalError Unit}
    (h : Course (.tags i state index) r trace result last) :
    ∃ n stand r' trace', i.Goes ⟨state, index⟩ r n stand r' ∧ i.Halts stand r' ∧
      Course (.tags i stand.state stand.index) r' trace' result last := by
  generalize hs : Stretch.tags i state index = s at h
  induction h generalizing i state index with
  | text | directive | done | stopped | next => cases hs
  | past r ht =>
    cases hs
    exact ⟨0, _, r, [], .none _ r, DirectiveInstance.halts_of_past ht, .past r ht⟩
  | failed ht hv =>
    cases hs
    have hh := DirectiveInstance.halts_of_visit ht hv.visit_eq nofun
    exact ⟨0, _, _, _, .none _ _, hh, .failed ht hv⟩
  | ended ht hv =>
    cases hs
    have hh := DirectiveInstance.halts_of_visit ht hv.visit_eq fun flow hf => by
      cases hf
      exact .inl rfl
    exact ⟨0, _, _, _, .none _ _, hh, .ended ht hv⟩
  | bare ht hv hb =>
    cases hs
    have hh := DirectiveInstance.halts_of_visit ht hv.visit_eq fun flow hf => by
      cases hf
      refine .inr ⟨rfl, fun body after hbody => ?_⟩
      rw [hb] at hbody
      cases hbody
    exact ⟨0, _, _, _, .none _ _, hh, .bare ht hv hb⟩
  | broken ht hv hb h =>
    cases hs
    have hrender := h.render_eq
    have hh := DirectiveInstance.halts_of_visit ht hv.visit_eq fun flow hf => by
      cases hf
      refine .inr ⟨rfl, fun body after hbody hok => ?_⟩
      rw [hb] at hbody
      cases hbody
      dsimp only [Stretch.render] at hrender
      rw [hrender] at hok
      cases hok
    exact ⟨0, _, _, _, .none _ _, hh, .broken ht hv hb h⟩
  | restarted ht hv _ ih =>
    cases hs
    obtain ⟨n, stand, r', trace', hg, hh, hc⟩ := ih rfl
    exact ⟨n + 1, stand, r', trace', .step (.restarted ht hv.visit_eq) hg, hh, hc⟩
  | skipped ht hv _ ih =>
    cases hs
    obtain ⟨n, stand, r', trace', hg, hh, hc⟩ := ih rfl
    exact ⟨n + 1, stand, r', trace', .step (.skipped ht hv.visit_eq) hg, hh, hc⟩
  | entered ht hv hb h _ _ ih =>
    cases hs
    obtain ⟨n, stand, r', trace', hg, hh, hc⟩ := ih rfl
    exact ⟨n + 1, stand, r', trace', .step (.entered ht hv.visit_eq hb h.render_eq) hg, hh, hc⟩

/-- Every evaluation comes to an end. The nodes of every forest take a finite course from every run,
and that is what is computed. A directive that goes on after its first activation does so at most as
often as it has tags, for each round that this activation counted: whatever components its tags have
later, and whatever the contents have done to the context and the host. Every instance is led on in
this way, and then no further; what comes of it is what comes of it from there. -/
theorem evaluation_finite :
    (∀ (forest : Forest) (r : Run), ∃ trace result last,
      Course (.nodes forest) r trace result last ∧ Node.renderAll forest r = (result, last)) ∧
      (∀ (d : Directive) (tagCount : Nat) (components : List Value) (first last : Stand) (n : Nat),
        d.Moves tagCount components .first first → d.Passes tagCount first n last →
          n + 1 ≤ tagCount * d.rounds components) ∧
      ∀ (i : DirectiveInstance) (r : Run), ∃ n last r',
        i.Goes .first r n last r' ∧ i.directive.Passes i.tags.length .first n last ∧
          i.Halts last r' ∧
          (Stretch.tags i .initial 0).render r =
            (Stretch.tags i last.state last.index).render r' := by
  refine ⟨fun forest r => ?_, fun d tagCount components first last n => Directive.Passes.le_rounds,
    fun i r => ?_⟩
  · obtain ⟨trace, hc⟩ := Stretch.exists_course (.nodes forest) r
    exact ⟨trace, _, _, hc, hc.render_eq⟩
  · obtain ⟨trace, hc⟩ := Stretch.exists_course (.tags i .initial 0) r
    obtain ⟨n, last, r', trace', hg, hh, hc'⟩ := hc.exists_goes
    exact ⟨n, last, r', hg, hg.passes, hh, hc'.render_eq.symm⟩

/-- The law at a loop over the largest range: however its source and its content behave later, it
goes on at most twice for each of the items that lengths can count. -/
theorem evaluation_finite_range :
    let components : List Value := [.text "x", .range Int64.minValue Int64.maxValue]
    let begun : Stand := ⟨.loop "x" ⟨.range Int64.minValue Int64.maxValue, 1⟩, 1⟩
    ∃ d, Dialect.standard = .ok d ∧
      (Directive.standard .forEach).Moves 2 components .first begun ∧
      ∀ n last, (Directive.standard .forEach).Passes 2 begun n last →
        n + 1 ≤ 2 * 18446744073709551615 := by
  intro components begun
  obtain ⟨d, hd, -⟩ := Dialect.exists_standard_insensitive
  let c : Context := .new d 0
  have he : (Directive.standard .forEach).execute 0 components ⟨.initial, c, .fresh⟩ =
      (.ok ⟨.evaluate, none⟩,
        ⟨begun.state, c.setVariable "x" (.ofInt Int64.minValue.toInt), .fresh⟩) := rfl
  have hm : (Directive.standard .forEach).Moves 2 components .first begun :=
    .onward (by decide) he (.inl rfl)
  exact ⟨d, hd, hm, fun n last hp => evaluation_finite.2.1 _ 2 components begun last n hm hp⟩

end TagTemplate
