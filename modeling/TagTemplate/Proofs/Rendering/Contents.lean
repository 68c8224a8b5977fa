import TagTemplate.Proofs.Rendering.Frames
import TagTemplate.Proofs.Rendering.Termination

/-!
# Evaluated contents

Which contents an instance of a directive evaluates from a tag on, in turn, each with the runs
before and after it, when nothing stops the instance. Nothing does if every moment of its course
succeeds: the evaluation is not cancelled, each activation gives an answer, and the output takes
each text.
-/

namespace TagTemplate

/-- A content of an instance that was evaluated. -/
structure Evaluated where
  /-- Which content. -/
  index : Nat
  /-- The run before it. -/
  before : Run
  /-- The run after it. -/
  after : Run

namespace DirectiveInstance

/-- From where it stands an instance evaluates these contents, in turn, and ends. -/
inductive Evaluates (i : DirectiveInstance) : Stand → Run → List Evaluated → Run → Prop
  /-- The last tag has been left behind. -/
  | past {state : DirectiveState} {index : Nat} (r : Run) (ht : i.tags[index]? = none) :
    Evaluates i ⟨state, index⟩ r [] r
  /-- The directive ends. -/
  | ended {state state' : DirectiveState} {index : Nat} {tag : LexedTag} {r last : Run}
    (ht : i.tags[index]? = some tag)
    (hv : i.directive.visit index tag state r = (.ok .terminate, state', last)) :
    Evaluates i ⟨state, index⟩ r [] last
  /-- The directive goes back to its first tag. -/
  | restarted {state state' : DirectiveState} {index : Nat} {tag : LexedTag} {r between last : Run}
    {log : List Evaluated} (ht : i.tags[index]? = some tag)
    (hv : i.directive.visit index tag state r = (.ok .restart, state', between))
    (h : Evaluates i ⟨state', 0⟩ between log last) : Evaluates i ⟨state, index⟩ r log last
  /-- The directive goes to its next tag at once. -/
  | skipped {state state' : DirectiveState} {index : Nat} {tag : LexedTag} {r between last : Run}
    {log : List Evaluated} (ht : i.tags[index]? = some tag)
    (hv : i.directive.visit index tag state r = (.ok .skip, state', between))
    (h : Evaluates i ⟨state', index + 1⟩ between log last) : Evaluates i ⟨state, index⟩ r log last
  /-- There is no content to evaluate, and the directive ends. -/
  | bare {state state' : DirectiveState} {index : Nat} {tag : LexedTag} {r last : Run}
    (ht : i.tags[index]? = some tag)
    (hv : i.directive.visit index tag state r = (.ok .evaluate, state', last))
    (hb : i.bodies[index]? = none) : Evaluates i ⟨state, index⟩ r [] last
  /-- The content after the tag is evaluated, and the next tag follows. -/
  | entered {state state' : DirectiveState} {index : Nat} {tag : LexedTag} {body : Forest}
    {r between after last : Run} {log : List Evaluated} (ht : i.tags[index]? = some tag)
    (hv : i.directive.visit index tag state r = (.ok .evaluate, state', between))
    (hb : i.bodies[index]? = some body) (hr : Node.renderAll body between = (.ok (), after))
    (h : Evaluates i ⟨state', index + 1⟩ after log last) :
    Evaluates i ⟨state, index⟩ r (⟨index, between, after⟩ :: log) last

variable {i : DirectiveInstance} {state : DirectiveState} {index : Nat} {tag : LexedTag}
  {r last : Run} {log : List Evaluated}

/-- An instance that stands on a tag visits it, and goes on where that leads. -/
theorem Evaluates.visit (h : i.Evaluates ⟨state, index⟩ r log last)
    (ht : i.tags[index]? = some tag) :
    ∃ flow state' between, i.directive.visit index tag state r = (.ok flow, state', between) ∧
      match flow with
      | .terminate => log = [] ∧ last = between
      | .restart => i.Evaluates ⟨state', 0⟩ between log last
      | .skip => i.Evaluates ⟨state', index + 1⟩ between log last
      | .evaluate =>
        match i.bodies[index]? with
        | none => log = [] ∧ last = between
        | some body => ∃ after later, Node.renderAll body between = (.ok (), after) ∧
          log = ⟨index, between, after⟩ :: later ∧
          i.Evaluates ⟨state', index + 1⟩ after later last := by
  cases h with
  | past _ ht' =>
    rw [ht'] at ht
    cases ht
  | ended ht' hv =>
    cases ht.symm.trans ht'
    exact ⟨_, _, _, hv, rfl, rfl⟩
  | restarted ht' hv h =>
    cases ht.symm.trans ht'
    exact ⟨_, _, _, hv, h⟩
  | skipped ht' hv h =>
    cases ht.symm.trans ht'
    exact ⟨_, _, _, hv, h⟩
  | bare ht' hv hb =>
    cases ht.symm.trans ht'
    refine ⟨_, _, _, hv, ?_⟩
    rw [hb]
    exact ⟨rfl, rfl⟩
  | entered ht' hv hb hr h =>
    cases ht.symm.trans ht'
    refine ⟨_, _, _, hv, ?_⟩
    rw [hb]
    exact ⟨_, _, hr, rfl, h⟩

theorem Evaluates.of_terminate {state' : DirectiveState} {between : Run}
    (h : i.Evaluates ⟨state, index⟩ r log last) (ht : i.tags[index]? = some tag)
    (hv : i.directive.visit index tag state r = (.ok .terminate, state', between)) :
    log = [] ∧ last = between := by
  obtain ⟨_, _, _, hv', hnext⟩ := h.visit ht
  cases hv.symm.trans hv'
  exact hnext

theorem Evaluates.of_restart {state' : DirectiveState} {between : Run}
    (h : i.Evaluates ⟨state, index⟩ r log last) (ht : i.tags[index]? = some tag)
    (hv : i.directive.visit index tag state r = (.ok .restart, state', between)) :
    i.Evaluates ⟨state', 0⟩ between log last := by
  obtain ⟨_, _, _, hv', hnext⟩ := h.visit ht
  cases hv.symm.trans hv'
  exact hnext

theorem Evaluates.of_evaluate {state' : DirectiveState} {between : Run} {body : Forest}
    (h : i.Evaluates ⟨state, index⟩ r log last) (ht : i.tags[index]? = some tag)
    (hv : i.directive.visit index tag state r = (.ok .evaluate, state', between))
    (hb : i.bodies[index]? = some body) :
    ∃ after later, Node.renderAll body between = (.ok (), after) ∧
      log = ⟨index, between, after⟩ :: later ∧
      i.Evaluates ⟨state', index + 1⟩ after later last := by
  obtain ⟨_, _, _, hv', hnext⟩ := h.visit ht
  cases hv.symm.trans hv'
  dsimp only at hnext
  rw [hb] at hnext
  exact hnext

end DirectiveInstance

/-- An instance whose course ends without an error evaluates contents in turn. -/
theorem Course.exists_evaluates {i : DirectiveInstance} {state : DirectiveState} {index : Nat}
    {r last : Run} {trace : List Moment} {result : Except EvalError Unit}
    (h : Course (.tags i state index) r trace result last) (ho : result = .ok ()) :
    ∃ log, i.Evaluates ⟨state, index⟩ r log last := by
  generalize hs : Stretch.tags i state index = s at h
  induction h generalizing i state index with
  | text | directive | done | stopped | next => cases hs
  | failed | broken => cases ho
  | past r ht =>
    cases hs
    exact ⟨[], .past r ht⟩
  | ended ht hv =>
    cases hs
    exact ⟨[], .ended ht hv.visit_eq⟩
  | bare ht hv hb =>
    cases hs
    exact ⟨[], .bare ht hv.visit_eq hb⟩
  | restarted ht hv _ ih =>
    cases hs
    obtain ⟨log, h⟩ := ih ho rfl
    exact ⟨log, .restarted ht hv.visit_eq h⟩
  | skipped ht hv _ ih =>
    cases hs
    obtain ⟨log, h⟩ := ih ho rfl
    exact ⟨log, .skipped ht hv.visit_eq h⟩
  | entered ht hv hb hr _ _ ih =>
    cases hs
    obtain ⟨log, h⟩ := ih ho rfl
    exact ⟨_, .entered ht hv.visit_eq hb hr.render_eq h⟩

/-- Nothing goes wrong at a moment: where the flag is looked at, the evaluation is not cancelled; the
activation of a tag gives an answer; the output takes a text. -/
def Moment.Succeeds (m : Moment) : Prop :=
  match m.happening with
  | .node _ => True
  | .tag _ _ | .text _ => m.run.isCancelled = false
  | .activation i index tag state =>
    ∃ activation, (i.directive.activate index tag state m.run).1 = .ok activation
  | .write s => m.run.output.fits s = true

/-- A text is written if nothing goes wrong. -/
theorem Offer.ok_of_succeeds {emit : Option String} {r last : Run} {trace : List Moment}
    {result : Except EvalError Unit} (h : Offer emit r trace result last)
    (hs : ∀ m ∈ trace, m.Succeeds) : result = .ok () := by
  cases h with
  | nothing => rfl
  | taken => rfl
  | cancelled s hc =>
    have hlook : r.isCancelled = false := hs ⟨.text s, r⟩ List.mem_cons_self
    rw [hc] at hlook
    cases hlook
  | @refused _ s _ hf =>
    have hwrite : r.output.fits s = true := hs ⟨.write s, r⟩ (by simp)
    rw [hf] at hwrite
    cases hwrite

/-- In the visit of a tag that fails something goes wrong. -/
theorem Visit.not_succeeds_of_error {i : DirectiveInstance} {index : Nat} {tag : LexedTag}
    {state state' : DirectiveState} {r last : Run} {trace : List Moment} {error : EvalError}
    (h : Visit i index tag state r trace (.error error) state' last) :
    ¬ ∀ m ∈ trace, m.Succeeds := by
  intro hs
  cases h with
  | cancelled hc =>
    have hlook : r.isCancelled = false := hs ⟨.tag i index, r⟩ List.mem_cons_self
    rw [hc] at hlook
    cases hlook
  | failed _ ha =>
    have hactive : ∃ activation, (i.directive.activate index tag state r).1 = .ok activation :=
      hs ⟨.activation i index tag state, r⟩ (by simp)
    obtain ⟨activation, hok⟩ := hactive
    rw [ha] at hok
    cases hok
  | unwritten _ _ ho =>
    cases ho.ok_of_succeeds fun m hm => hs m (List.mem_cons_of_mem _ (List.mem_cons_of_mem _ hm))

/-- A rendering succeeds if nothing goes wrong in its course. -/
theorem Course.ok_of_succeeds {s : Stretch} {r last : Run} {trace : List Moment}
    {result : Except EvalError Unit} (h : Course s r trace result last)
    (hs : ∀ m ∈ trace, m.Succeeds) : result = .ok () := by
  induction h with
  | text ho => exact ho.ok_of_succeeds fun m hm => hs m (List.mem_cons_of_mem _ hm)
  | directive _ ih =>
    rw [ih fun m hm => hs m (List.mem_cons_of_mem _ hm)]
    rfl
  | done | past | ended | bare => rfl
  | stopped _ ih => exact ih hs
  | next _ _ _ ih' => exact ih' fun m hm => hs m (List.mem_append_right _ hm)
  | failed _ hv => exact absurd hs hv.not_succeeds_of_error
  | restarted _ _ _ ih | skipped _ _ _ ih =>
    exact ih fun m hm => hs m (List.mem_append_right _ hm)
  | broken _ _ _ _ ih => exact ih fun m hm => hs m (List.mem_append_right _ hm)
  | entered _ _ _ _ _ _ ih' =>
    exact ih' fun m hm => hs m (List.mem_append_right _ (List.mem_append_right _ hm))

end TagTemplate
