import TagTemplate.Proofs.Expr.Leniency
import TagTemplate.Proofs.Rendering.Failures
import TagTemplate.Proofs.Rendering.Trace

/-!
# Renderings under other options

A rendering in which errors are not ignored and one under options by which less must be found go
the same way until an activation fails in the first. If none does, they have the same result and
end in the same run. If one does, the first rendering is at its end, and what it wrote is the
beginning of what the other writes.
-/

namespace TagTemplate

namespace Run

/-- The run with other options. -/
def under (r : Run) (o : EvalOptions) : Run := { r with context := r.context.under o }

variable {r : Run} {o : EvalOptions} {tags : List LexedTag}

@[simp] theorem context_under : (r.under o).context = r.context.under o := rfl

@[simp] theorem host_under : (r.under o).host = r.host := rfl

@[simp] theorem output_under : (r.under o).output = r.output := rfl

@[simp] theorem isCancelled_under : (r.under o).isCancelled = r.isCancelled := rfl

theorem enter_under : (r.under o).enter tags = (r.enter tags).under o := by
  unfold enter
  split <;> rfl

theorem leave_under : (r.under o).leave tags = (r.leave tags).under o := by
  unfold leave
  split
  · unfold closeFrame Context.closeFrame Context.closeFrame?
    have ho : (r.context.under o).outer = r.context.outer := rfl
    rw [context_under, ho]
    cases r.context.outer <;> rfl
  · rfl

end Run

/-- The stage with other options. -/
def Stage.under (stage : Stage) (o : EvalOptions) : Stage :=
  { stage with context := stage.context.under o }

variable {o : EvalOptions} {components : List Value} {state : DirectiveState} {c : Context}

namespace StandardDirective

/-- The result of an execution with other options. -/
def resultUnder (o : EvalOptions) (result : StandardResult) : StandardResult :=
  result.map fun (activation, state, c) => (activation, state, c.under o)

/-- Options do not matter to a loop. -/
theorem nextItem_under :
    nextItem components state (c.under o) = resultUnder o (nextItem components state c) := by
  unfold nextItem
  rcases loopOf components state with error | none | ⟨name, items⟩
  · rfl
  · rfl
  · dsimp only
    cases items.next? Value.ofInt <;> rfl

/-- Options do not matter to a repetition. -/
theorem repeatOnce_under :
    repeatOnce components state (c.under o) = resultUnder o (repeatOnce components state c) := by
  unfold repeatOnce
  split
  · rfl
  · split <;> rfl
  · rfl

/-- Options do not matter to a standard directive. -/
theorem execute_under (d : StandardDirective) (tag : Nat) (components : List Value)
    (state : DirectiveState) (c : Context) (o : EvalOptions) :
    d.execute tag components state (c.under o) =
      resultUnder o (d.execute tag components state c) := by
  unfold execute
  split
  case h_1 => cases componentAt components 0 <;> rfl
  case h_2 =>
    cases componentAt components 0 with
    | error => rfl
    | ok => cases componentAt components 1 <;> rfl
  case h_3 => cases componentAt components 0 <;> rfl
  case h_5 => cases componentAt components 0 <;> rfl
  case h_6 => split <;> rfl
  case h_8 => exact nextItem_under
  case h_10 => exact nextItem_under
  case h_11 => split <;> rfl
  case h_13 => exact repeatOnce_under
  case h_17 =>
    cases identifierAt components 0 with
    | error => rfl
    | ok => cases componentAt components 1 <;> rfl
  all_goals rfl

end StandardDirective

/-- The changes of a step are the same under other options. -/
theorem Script.change_under (step : ScriptStep) :
    change step (c.under o) = (change step c).under o := by
  unfold change
  cases step.set <;> cases step.addMark <;> cases step.removeMark <;> rfl

namespace Directive

variable {d : Directive} {index : Nat} {tag : LexedTag} {state' : DirectiveState} {r last : Run}

/-- Options do not matter to an execution. -/
theorem execute_under (d : Directive) (index : Nat) (components : List Value) (stage : Stage)
    (o : EvalOptions) :
    d.execute index components (stage.under o) =
      ((d.execute index components stage).1, (d.execute index components stage).2.under o) := by
  cases d with
  | standard d =>
    unfold execute
    dsimp only [Stage.under]
    rw [StandardDirective.execute_under]
    cases d.execute index components stage.state stage.context <;> rfl
  | scripted s =>
    unfold execute Script.execute
    dsimp only [Stage.under]
    split
    · rfl
    · split
      · rfl
      · rw [Script.change_under]
        rfl

/-- An activation that gives an answer gives the same one where less must be found. -/
theorem activate_under {activation : Activation} (ho : r.context.options.Covers o)
    (h : d.activate index tag state r = (.ok activation, state', last)) :
    d.activate index tag state (r.under o) = (.ok activation, state', last.under o) := by
  obtain ⟨components, host, stage, hv, he, rfl, rfl⟩ := exists_execute_of_activate h
  have hu := d.execute_under index components ⟨state, r.context, host⟩ o
  rw [he] at hu
  unfold activate
  rw [Run.context_under, Run.host_under, (TagPart.refines_values ho tag.parts).gives hv]
  exact congrArg (fun x => (x.1, x.2.state, (r.under o).afterStage x.2)) hu

end Directive

/-- What comes of a text is the same under other options. -/
theorem Offer.putAny_under {emit : Option String} {r last : Run} {trace : List Moment}
    {result : Except EvalError Unit} (h : Offer emit r trace result last) (o : EvalOptions) :
    Run.putAny emit (r.under o) = (result, last.under o) := by
  cases h with
  | nothing => rfl
  | cancelled s hc => simp [Run.putAny, Run.put, hc]
  | refused hc hf => simp [Run.putAny, Run.put, hc, hf]
  | taken hc hf =>
    simp [Run.putAny, Run.put, hc, hf]
    rfl

/-- A visit that does not fail for a reason of its own is the same where less must be found. -/
theorem Visit.visit_under {i : DirectiveInstance} {index : Nat} {tag : LexedTag}
    {state state' : DirectiveState} {r last : Run} {trace : List Moment}
    {result : Except EvalError Flow} (h : Visit i index tag state r trace result state' last)
    (ho : r.context.options.Covers o)
    (hp : ∀ error, result = .error error → error.isPlain = false) :
    i.directive.visit index tag state (r.under o) = (result, state', last.under o) := by
  cases h with
  | cancelled hc => simp [Directive.visit, hc]
  | failed hc ha =>
    have hplain := Directive.failsPlainly_activate i.directive index tag state r _
      (congrArg Prod.fst ha)
    rw [hp _ rfl] at hplain
    cases hplain
  | unwritten hc ha hoffer =>
    simp [Directive.visit, hc, Directive.activate_under ho ha, hoffer.putAny_under]
  | answered hc ha hoffer =>
    simp [Directive.visit, hc, Directive.activate_under ho ha, hoffer.putAny_under]

/-- What was written stays written in every rendering. -/
theorem Stretch.texts_suffix (s : Stretch) (r : Run) :
    r.output.texts <:+ (s.render r).2.output.texts := by
  obtain ⟨trace, hc⟩ := s.exists_course r
  exact hc.tells.texts_suffix

/-- What a part of a rendering wrote stays written by what follows it. -/
theorem Stretch.texts_suffix_andThen (s : Stretch) (outcome : Except EvalError Unit × Run) :
    outcome.2.output.texts <:+ (andThen outcome fun () => s.render).2.output.texts := by
  obtain ⟨error | u, between⟩ := outcome
  · exact List.suffix_refl _
  · exact s.texts_suffix between

/-- Whether an error is ignored where errors are. -/
def EvalError.isIgnorable : EvalError → Bool
  | .cancelled | .write => false
  | _ => true

/-- Whatever is a reason of its own for an activation could be ignored. -/
theorem EvalError.isPlain_of_not_ignorable {error : EvalError} (h : error.isIgnorable = false) :
    error.isPlain = false := by
  cases error <;> first | rfl | cases h

namespace Directive

variable {d : Directive} {position : Nat} {options : EvalOptions} {error : EvalError}

/-- An error that is never ignored is passed on. -/
theorem settle_of_not_ignorable (h : error.isIgnorable = false) :
    d.settle position options (.error error) = .error error := by
  cases error <;> first | rfl | cases h

/-- Where errors are not ignored an error that could be becomes another one. -/
theorem exists_settle_of_ignorable (ho : options.ignoresErrors = false)
    (h : error.isIgnorable = true) :
    ∃ settled, d.settle position options (.error error) = .error settled ∧
      settled.isIgnorable = true := by
  cases error <;> first | cases h; done | simp [settle, ho, EvalError.isIgnorable]

end Directive

/-- A text is not written for a reason that is never ignored. -/
theorem Offer.isIgnorable_eq_false {emit : Option String} {r last : Run} {trace : List Moment}
    {error : EvalError} (h : Offer emit r trace (.error error) last) :
    error.isIgnorable = false := by
  cases h <;> rfl

/-- A visit that fails for a reason that could be ignored writes nothing. -/
theorem Visit.output_eq {i : DirectiveInstance} {index : Nat} {tag : LexedTag}
    {state state' : DirectiveState} {r last : Run} {trace : List Moment} {error : EvalError}
    (h : Visit i index tag state r trace (.error error) state' last)
    (he : error.isIgnorable = true) : last.output = r.output := by
  cases h with
  | cancelled => cases he
  | failed _ ha =>
    have ho := Directive.output_activate i.directive index tag state r
    rwa [ha] at ho
  | unwritten _ _ ho =>
    rw [ho.isIgnorable_eq_false] at he
    cases he

/-- What a rendering comes to under other options, beside its result and its last run. -/
inductive Shadow (o : EvalOptions) (result : Except EvalError Unit) (last : Run)
    (outcome : Except EvalError Unit × Run) : Prop
  /-- It comes to the same. -/
  | same (h : outcome = (result, last.under o))
  /-- The first one failed for a reason that could be ignored, and the second one wrote what the
  first one did and may have written more. -/
  | beyond {error : EvalError} (he : result = .error error) (hi : error.isIgnorable = true)
    (hs : last.output.texts <:+ outcome.2.output.texts)

namespace Shadow

variable {o : EvalOptions} {result : Except EvalError Unit} {last : Run}
  {outcome outcome' : Except EvalError Unit × Run}

/-- If nothing fails that could be ignored, the other rendering comes to the same. -/
theorem eq_of_ok (h : Shadow o (.ok ()) last outcome) : outcome = (.ok (), last.under o) := by
  cases h with
  | same h => exact h
  | beyond he => cases he

/-- A directive comes to what its instance comes to, settled. -/
theorem directive {i : DirectiveInstance} {r : Run}
    (h : Shadow o result last ((Stretch.tags i .initial 0).render ((r.enter i.tags).under o)))
    (hn : last.context.options.ignoresErrors = false) :
    Shadow o (i.directive.settle i.position last.context.options result) (last.leave i.tags)
      ((Stretch.node i.node).render (r.under o)) := by
  rw [Stretch.render_node, Run.enter_under]
  cases h with
  | same heq =>
    rw [heq]
    dsimp only
    rw [Run.leave_under]
    cases result with
    | ok u => exact .same rfl
    | error error => cases hi : error.isIgnorable with
      | false =>
        rw [Directive.settle_of_not_ignorable hi, Directive.settle_of_not_ignorable hi]
        exact .same rfl
      | true =>
        obtain ⟨settled, hs, hsettled⟩ := Directive.exists_settle_of_ignorable hn hi
        rw [hs]
        exact .beyond rfl hsettled (List.suffix_refl _)
  | beyond he hi hs =>
    subst he
    obtain ⟨settled, hsettle, hsettled⟩ := Directive.exists_settle_of_ignorable hn hi
    rw [hsettle]
    refine .beyond rfl hsettled ?_
    rwa [Run.output_leave, Run.output_leave]

/-- A part that fails is the end of the whole; if its failure could be ignored, the other rendering
may go on. -/
theorem stop {error : EvalError} (h : Shadow o (.error error) last outcome) (s : Stretch) :
    Shadow o (.error error) last (andThen outcome fun () => s.render) := by
  cases h with
  | same h =>
    rw [h]
    exact .same rfl
  | beyond he hi hs => exact .beyond he hi (hs.trans (s.texts_suffix_andThen outcome))

/-- A part in which nothing fails is followed by the next one. -/
theorem followed {between : Run} {s : Stretch} (h : Shadow o (.ok ()) between outcome)
    (h' : Shadow o result last (s.render (between.under o))) :
    Shadow o result last (andThen outcome fun () => s.render) := by
  rw [h.eq_of_ok]
  exact h'

end Shadow

/-- After a visit that does not fail the directive goes on in the same way where less must be
found. -/
theorem Visit.shadow_goOn {i : DirectiveInstance} {index : Nat} {tag : LexedTag}
    {state state' : DirectiveState} {r between last : Run} {trace : List Moment} {flow : Flow}
    {result : Except EvalError Unit} (h : Visit i index tag state r trace (.ok flow) state' between)
    (ht : i.tags[index]? = some tag) (ho : r.context.options.Covers o)
    (hn : Shadow o result last (i.goOn index state' flow (between.under o))) :
    Shadow o result last ((Stretch.tags i state index).render (r.under o)) := by
  rw [Stretch.render_visit ht (h.visit_under ho nofun)]
  exact hn

/-- A visit that fails does so where less must be found, or for a reason that could be ignored; it
has then written nothing. -/
theorem Visit.shadow_failed {i : DirectiveInstance} {index : Nat} {tag : LexedTag}
    {state state' : DirectiveState} {r last : Run} {trace : List Moment} {error : EvalError}
    (h : Visit i index tag state r trace (.error error) state' last)
    (ht : i.tags[index]? = some tag) (ho : r.context.options.Covers o) :
    Shadow o (.error error) last ((Stretch.tags i state index).render (r.under o)) := by
  cases hi : error.isIgnorable with
  | false =>
    have hp : ∀ error' : EvalError, (.error error : Except EvalError Flow) = .error error' →
        error'.isPlain = false := fun _ he => by
      cases he
      exact EvalError.isPlain_of_not_ignorable hi
    exact .same (Stretch.render_visit ht (h.visit_under ho hp))
  | true =>
    refine .beyond rfl hi ?_
    rw [h.output_eq hi]
    exact (Stretch.tags i state index).texts_suffix (r.under o)

/-- Along every course on which errors are not ignored, the rendering of the same stretch where
less must be found comes to the same, or goes beyond an error that could be ignored. -/
theorem Course.shadow {s : Stretch} {r last : Run} {trace : List Moment}
    {result : Except EvalError Unit} (h : Course s r trace result last)
    (ho : r.context.options.Covers o) (hn : r.context.options.ignoresErrors = false) :
    Shadow o result last (s.render (r.under o)) := by
  induction h with
  | text hoffer => exact .same ((Run.putText_eq _ _).trans (hoffer.putAny_under o))
  | @directive i r last trace result h ih =>
    rw [Run.options_enter] at ih
    have hlast : last.context.options.ignoresErrors = false := by
      rw [h.sameBelow.options, Run.options_enter, hn]
    exact (ih ho hn).directive hlast
  | done r => exact .same rfl
  | stopped _ ih =>
    rw [Stretch.render_cons]
    exact (ih ho hn).stop _
  | next h _ ih ih' =>
    rw [h.sameBelow.options] at ih'
    rw [Stretch.render_cons]
    exact (ih ho hn).followed (ih' ho hn)
  | past r ht =>
    refine .same ?_
    simp only [Stretch.render_tags, ht]
  | failed ht hv => exact hv.shadow_failed ht ho
  | ended ht hv => exact hv.shadow_goOn ht ho (.same rfl)
  | restarted ht hv _ ih =>
    rw [hv.sameBelow.options] at ih
    exact hv.shadow_goOn ht ho (ih ho hn)
  | skipped ht hv _ ih =>
    rw [hv.sameBelow.options] at ih
    exact hv.shadow_goOn ht ho (ih ho hn)
  | bare ht hv hb =>
    refine hv.shadow_goOn ht ho (.same ?_)
    simp only [DirectiveInstance.goOn, hb]
  | broken ht hv hb _ ih =>
    rw [hv.sameBelow.options] at ih
    refine hv.shadow_goOn ht ho ?_
    simp only [DirectiveInstance.goOn, hb]
    exact (ih ho hn).stop _
  | entered ht hv hb h _ ih ih' =>
    rw [h.sameBelow.options, hv.sameBelow.options] at ih'
    rw [hv.sameBelow.options] at ih
    refine hv.shadow_goOn ht ho ?_
    simp only [DirectiveInstance.goOn, hb]
    exact (ih ho hn).followed (ih' ho hn)

/-- What was taken before is the beginning of what was taken then. -/
theorem Output.exists_written_eq {output later : Output} (h : output.texts <:+ later.texts) :
    ∃ rest, later.written = output.written ++ rest := by
  obtain ⟨more, hm⟩ := h
  refine ⟨String.join more.reverse, ?_⟩
  rw [written, ← hm, List.reverse_append, String.join_append]
  rfl

namespace Template

/-- The evaluation of a template where less must be found comes to the same, or goes beyond a
failure of a directive. -/
theorem evaluate_under {t : Template} {r : Run} {o : EvalOptions}
    (ho : r.context.options.Covers o) (hn : r.context.options.ignoresErrors = false) :
    t.evaluate (r.under o) = ((t.evaluate r).1, (t.evaluate r).2.under o) ∨
      (∃ name position source,
        (t.evaluate r).1 = .error (.evaluation (.directive name position source))) ∧
        (t.evaluate r).2.output.texts <:+ (t.evaluate (r.under o)).2.output.texts := by
  obtain ⟨trace, result, last, hc⟩ := t.exists_course r
  obtain ⟨trace', result', last', hc'⟩ := t.exists_course (r.under o)
  have hshadow := hc.shadow ho hn
  rw [evaluate_eq_of_course hc, evaluate_eq_of_course hc']
  rw [hc'.render_eq] at hshadow
  cases hshadow with
  | same h =>
    cases h
    exact .inl rfl
  | beyond he hi hs =>
    subst he
    cases hc.fails rfl with
    | cancelled | write => cases hi
    | directive => exact .inr ⟨⟨_, _, _, rfl⟩, hs⟩

/-- Options matter only where something fails. If a template is evaluated without an error where
everything must be found and no error is ignored, its evaluation comes to the same under all
options. If errors are ignored that were not, whatever must be found, the evaluation writes what it
wrote and may write more; unless a directive failed, it comes to the same. -/
theorem options_of_evaluate (t : Template) (r : Run) :
    (r.context.options = ⟨false, true, true⟩ → (t.evaluate r).1 = .ok () →
      ∀ o, t.evaluate (r.under o) = (.ok (), (t.evaluate r).2.under o)) ∧
      (r.context.options.ignoresErrors = false →
        let ignoring : EvalOptions := { r.context.options with ignoresErrors := true }
        (∃ rest, (t.evaluate (r.under ignoring)).2.output.written =
          (t.evaluate r).2.output.written ++ rest) ∧
        ((∀ name position source,
            (t.evaluate r).1 ≠ .error (.evaluation (.directive name position source))) →
          t.evaluate (r.under ignoring) =
            ((t.evaluate r).1, (t.evaluate r).2.under ignoring))) := by
  refine ⟨fun hstrict hok o => ?_, fun hn => ?_⟩
  · have ho : r.context.options.Covers o := by
      rw [hstrict]
      exact ⟨fun _ => rfl, fun _ => rfl⟩
    rcases evaluate_under ho (by rw [hstrict]) with h | ⟨⟨name, position, source, h⟩, -⟩
    · rw [h, hok]
    · rw [hok] at h
      cases h
  · intro ignoring
    have ho : r.context.options.Covers ignoring := ⟨id, id⟩
    rcases evaluate_under ho hn with h | ⟨⟨name, position, source, h⟩, hs⟩
    · refine ⟨⟨"", ?_⟩, fun _ => h⟩
      rw [h, String.append_empty]
      rfl
    · exact ⟨Output.exists_written_eq hs, fun hne => absurd h (hne name position source)⟩

/-- Whether a forest shows the quoted text a and nothing else. -/
def isQuoted : Forest → Bool
  | [.directive (.standard .interpolation) 0
      [⟨_, [.expression (.literal (.text "a"))], _⟩] []] => true
  | _ => false

/-- The law at the value of an expression, under all options, and at a missing name, which is an
error that may be ignored. -/
theorem options_of_evaluate_missing :
    ∃ d t t', Dialect.standard = .ok d ∧ compile d "\x7b'a'\x7d" = .ok t ∧
      compile d "\x7bx\x7d" = .ok t' ∧
      let r : Run := ⟨⟨d, .empty, [], none, ⟨false, true, true⟩, 0⟩, .fresh, .unlimited⟩
      (t.evaluate r).1 = .ok () ∧
        (∀ o, t.evaluate (r.under o) = (.ok (), (t.evaluate r).2.under o)) ∧
        ∃ rest, (t'.evaluate (r.under ⟨true, true, true⟩)).2.output.written =
          (t'.evaluate r).2.output.written ++ rest := by
  have hcheck : (Dialect.standard.toOption.any fun d =>
      (compile d "\x7b'a'\x7d").toOption.any fun t =>
        isQuoted t.forest) = true := by decide +kernel
  have hmissing : (Dialect.standard.toOption.any fun d =>
      (compile d "\x7bx\x7d").toOption.isSome) = true := by decide +kernel
  obtain ⟨d, t, hd, ht, hshape⟩ := exists_compile hcheck
  rw [hd, Except.toOption, Option.any_some] at hmissing
  cases ht' : compile d "\x7bx\x7d" with
  | error error =>
    rw [ht'] at hmissing
    cases hmissing
  | ok t' =>
    refine ⟨d, t, t', hd, ht, ht', ?_⟩
    intro r
    have hok : (t.evaluate r).1 = .ok () := by
      unfold isQuoted at hshape
      split at hshape
      · next shape place hf =>
        let tag : LexedTag := ⟨shape, [.expression (.literal (.text "a"))], place⟩
        let i : DirectiveInstance := ⟨.standard .interpolation, 0, [tag], []⟩
        have hforest : t.forest = [i.node] := hf
        have ha : i.directive.activate 0 tag .initial r =
            (.ok ⟨.terminate, some "a"⟩, .initial, r) := rfl
        have hi : Course (.tags i .initial 0) (r.enter i.tags) _ (.ok ()) _ :=
          .ended rfl (.answered rfl ha (.taken rfl rfl))
        have hc : Course (.nodes [i.node]) r _ (.ok ()) _ := .next (.directive hi) (.done _)
        rw [← hforest] at hc
        exact congrArg Prod.fst (evaluate_eq_of_course hc)
      · cases hshape
    exact ⟨hok, (options_of_evaluate t r).1 rfl hok, ((options_of_evaluate t' r).2 rfl).1⟩

end Template

end TagTemplate
