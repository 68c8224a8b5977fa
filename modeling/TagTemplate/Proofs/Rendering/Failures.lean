import TagTemplate.Proofs.Rendering.Frames

/-!
# Failures

A text that cannot be compiled is at fault itself. A template that was compiled fails to be
evaluated because the evaluation is cancelled, because a text cannot be written, or because the
activation of a tag fails. In the last case the error names the directive to which that tag
belongs and its place, and nothing that is around the directive adds to it. Where errors are
ignored only the other two remain.
-/

namespace TagTemplate

/-- A trace ends with the activation of a tag of an instance, which fails with an error. -/
inductive FailedAt (i : DirectiveInstance) (error : EvalError) : List Moment → Prop
  /-- The activation comes last. -/
  | last (before : List Moment) {index : Nat} {tag : LexedTag} {state : DirectiveState} {r : Run}
    (ht : i.tags[index]? = some tag)
    (ha : (i.directive.activate index tag state r).1 = .error error) :
    FailedAt i error (before ++ [⟨.activation i index tag state, r⟩])

/-- What comes before a failed activation does not matter. -/
theorem FailedAt.prepend {i : DirectiveInstance} {error : EvalError} {trace : List Moment}
    (h : FailedAt i error trace) (before : List Moment) : FailedAt i error (before ++ trace) := by
  cases h with
  | last between ht ha =>
    rw [← List.append_assoc]
    exact .last (before ++ between) ht ha

/-- An activation fails for a reason of its own. -/
theorem FailedAt.isPlain {i : DirectiveInstance} {error : EvalError} {trace : List Moment}
    (h : FailedAt i error trace) : error.isPlain = true := by
  cases h with
  | last _ _ ha => exact Directive.failsPlainly_activate _ _ _ _ _ _ ha

/-- Why the rendering of nodes fails at the end of a trace. -/
inductive Failure (options : EvalOptions) (forest : Forest) (trace : List Moment) :
    EvalError → Prop
  /-- The evaluation was cancelled. -/
  | cancelled : Failure options forest trace .cancelled
  /-- A text was refused. -/
  | write : Failure options forest trace .write
  /-- Errors are not ignored, and the activation of a tag of a directive failed that occurs in
  the nodes; the error says which one and why. -/
  | directive {i : DirectiveInstance} {source : EvalError} (ho : options.ignoresErrors = false)
    (hi : i.node.Occurs forest) (hf : FailedAt i source trace) :
    Failure options forest trace (.directive i.directive.name i.position source)

namespace Failure

variable {options : EvalOptions} {forest larger : Forest} {trace : List Moment}
  {error : EvalError}

/-- A failure in a part is one in the whole, whatever came before. -/
theorem widen (h : Failure options forest trace error)
    (hs : ∀ i : DirectiveInstance, i.node.Occurs forest → i.node.Occurs larger)
    (before : List Moment) : Failure options larger (before ++ trace) error := by
  cases h with
  | cancelled => exact .cancelled
  | write => exact .write
  | directive ho hi hf => exact .directive ho (hs _ hi) (hf.prepend before)

/-- Nodes do not fail for the reason for which an activation itself does. -/
theorem isPlain_eq_false (h : Failure options forest trace error) : error.isPlain = false := by
  cases h <;> rfl

end Failure

/-- What occurs in a content of an instance occurs in its node. -/
theorem DirectiveInstance.occurs_of_bodies {i : DirectiveInstance} {node : Node}
    (h : node.Occurs i.bodies.flatten) : node.Occurs [i.node] := by
  cases h with
  | root hm =>
    obtain ⟨body, hb, hm⟩ := List.mem_flatten.mp hm
    exact .inside List.mem_cons_self hb (.root hm)
  | inside hm hb h =>
    obtain ⟨outer, ho, hm⟩ := List.mem_flatten.mp hm
    exact .inside List.mem_cons_self ho (.inside hm hb h)

/-- Why the rendering of a stretch fails. An instance may fail for the reason for which the
activation of its own tag does; what is inside it fails as nodes do. -/
def Stretch.Fails (s : Stretch) (options : EvalOptions) (trace : List Moment)
    (error : EvalError) : Prop :=
  match s with
  | .node n => Failure options [n] trace error
  | .nodes forest => Failure options forest trace error
  | .tags i _ _ => FailedAt i error trace ∨ Failure options i.bodies.flatten trace error

/-- What comes before a failure does not matter. -/
theorem Stretch.Fails.prepend {s : Stretch} {options : EvalOptions} {trace : List Moment}
    {error : EvalError} (h : s.Fails options trace error) (before : List Moment) :
    s.Fails options (before ++ trace) error := by
  cases s with
  | node n => exact Failure.widen h (fun _ hi => hi) before
  | nodes forest => exact Failure.widen h (fun _ hi => hi) before
  | tags i state index =>
    exact h.imp (fun hf => hf.prepend before) fun hf => hf.widen (fun _ hi => hi) before

/-- What a directive makes of an error: it passes on what is none of its own, ignores it, or says
that it is its own. -/
theorem Directive.settle_eq_error {d : Directive} {position : Nat} {options : EvalOptions}
    {result : Except EvalError Unit} {error : EvalError}
    (h : d.settle position options result = .error error) :
    (result = .error error ∧ (error = .cancelled ∨ error = .write)) ∨
      options.ignoresErrors = false ∧
        ((∃ name place source, result = .error error ∧ error = .directive name place source) ∨
          ∃ source, source.isPlain = true ∧ result = .error source ∧
            error = .directive d.name position source) := by
  cases result with
  | ok u => cases h
  | error e => cases e with
    | cancelled =>
      cases h
      exact .inl ⟨rfl, .inl rfl⟩
    | write =>
      cases h
      exact .inl ⟨rfl, .inr rfl⟩
    | directive name place source =>
      dsimp only [settle] at h
      split at h <;> cases h
      next ho => exact .inr ⟨eq_false_of_ne_true ho, .inl ⟨_, _, _, rfl, rfl⟩⟩
    | undefinedIdentifier | unknownMember | reflection | failed =>
      dsimp only [settle] at h
      split at h <;> cases h
      next ho => exact .inr ⟨eq_false_of_ne_true ho, .inr ⟨_, rfl, rfl, rfl⟩⟩

/-- A text that is not written fails because of the flag or the output. -/
theorem Offer.failure {emit : Option String} {r last : Run} {trace trace' : List Moment}
    {error : EvalError} (h : Offer emit r trace (.error error) last) (options : EvalOptions)
    (forest : Forest) : Failure options forest trace' error := by
  cases h with
  | cancelled => exact .cancelled
  | refused => exact .write

/-- A visit fails because of the activation, the flag or the output. -/
theorem Visit.fails {i : DirectiveInstance} {index : Nat} {tag : LexedTag}
    {state state' : DirectiveState} {r last : Run} {trace : List Moment} {error : EvalError}
    (h : Visit i index tag state r trace (.error error) state' last)
    (ht : i.tags[index]? = some tag) (options : EvalOptions) :
    (Stretch.tags i state index).Fails options trace error := by
  cases h with
  | cancelled => exact .inr .cancelled
  | failed _ ha => exact .inl (.last [_] ht (congrArg Prod.fst ha))
  | unwritten _ _ ho => exact .inr (ho.failure options _)

/-- Every course fails for one of these reasons, if it does. -/
theorem Course.fails {s : Stretch} {r last : Run} {trace : List Moment}
    {result : Except EvalError Unit} (h : Course s r trace result last) {error : EvalError}
    (he : result = .error error) : s.Fails r.context.options trace error := by
  induction h generalizing error with
  | text ho =>
    subst he
    exact ho.failure _ _
  | @directive i r last trace result h ih =>
    have ho : last.context.options = r.context.options := by
      rw [h.sameBelow.options, Run.options_enter]
    rw [Run.options_enter] at ih
    rw [ho] at he
    have hroot : i.node.Occurs [i.node] := .root List.mem_cons_self
    rcases Directive.settle_eq_error he with ⟨hr, rfl | rfl⟩ | ⟨ho, hown⟩
    · exact .cancelled
    · exact .write
    · rcases hown with ⟨name, place, source, hr, rfl⟩ | ⟨source, hp, hr, rfl⟩
      · rcases ih hr with hf | hf
        · cases hf.isPlain
        · exact hf.widen (fun _ => DirectiveInstance.occurs_of_bodies) [_]
      · rcases ih hr with hf | hf
        · exact .directive ho hroot (hf.prepend [_])
        · rw [hf.isPlain_eq_false] at hp
          cases hp
  | done => cases he
  | stopped _ ih =>
    have hs : ∀ {n : Node} {rest : Forest}, [n] ⊆ n :: rest := fun {n rest} =>
      List.cons_subset.mpr ⟨List.mem_cons_self, List.nil_subset (n :: rest)⟩
    exact (ih he).widen (fun _ hi => hi.mono hs) []
  | @next n rest _ _ _ trace _ _ h _ _ ih' =>
    rw [← h.sameBelow.options]
    exact (ih' he).widen (fun _ hi => hi.mono (List.subset_cons_self n rest)) trace
  | past => cases he
  | failed ht hv =>
    cases he
    exact hv.fails ht _
  | ended => cases he
  | restarted _ hv _ ih =>
    rw [← hv.sameBelow.options]
    exact (ih he).prepend _
  | skipped _ hv _ ih =>
    rw [← hv.sameBelow.options]
    exact (ih he).prepend _
  | bare => cases he
  | @broken i _ _ _ _ body _ _ _ trace _ _ _ hv hb _ ih =>
    rw [← hv.sameBelow.options]
    have hs : body ⊆ i.bodies.flatten :=
      fun _ hn => List.mem_flatten_of_mem (List.mem_of_getElem? hb) hn
    exact .inr ((ih he).widen (fun _ hi => hi.mono hs) trace)
  | entered _ hv _ h _ _ ih' =>
    rw [← hv.sameBelow.options, ← h.sameBelow.options]
    exact ((ih' he).prepend _).prepend _

namespace Template

/-- Failures belong to their phase, and each is reported once. A text that is not compiled is at
fault: it is no template, or a part of it is no expression. A template fails to be evaluated because
the evaluation is cancelled, because a text is refused, or because the activation of a tag fails
for a reason of its own; then the error names the directive of that tag and its place, and that
activation is the last that is done. If errors are ignored, there is no error of the third kind. -/
theorem failures_of_template :
    (∀ {d source error}, compile d source = .error error →
      error.isCompileError = true ∧
        ((∃ fault, error = .parse fault) ∨ ∃ position fault, error = .expression position fault)) ∧
      ∀ {d source t}, compile d source = .ok t → ∀ {r : Run} {error},
        (t.evaluate r).1 = .error error →
          error = .cancelled ∨ error = .evaluation .write ∨
            r.context.options.ignoresErrors = false ∧
              ∃ (i : DirectiveInstance) (reason : EvalError) (trace : List Moment),
                error = .evaluation (.directive i.directive.name i.position reason) ∧
                reason.isPlain = true ∧ i.node.Occurs t.forest ∧
                Course (.nodes t.forest) r trace
                  (.error (.directive i.directive.name i.position reason)) (t.evaluate r).2 ∧
                FailedAt i reason trace := by
  refine ⟨fun {d source error} h => ?_, fun {d source t} _ {r error} h => ?_⟩
  · cases ofText_of_compile h with
    | parse fault => exact ⟨rfl, .inl ⟨fault, rfl⟩⟩
    | expression position fault => exact ⟨rfl, .inr ⟨position, fault, rfl⟩⟩
  · obtain ⟨trace, result, last, hc⟩ := t.exists_course r
    rw [evaluate_eq_of_course hc] at h ⊢
    cases result with
    | ok u => cases h
    | error failure =>
      cases h
      cases hc.fails rfl with
      | cancelled => exact .inl rfl
      | write => exact .inr (.inl rfl)
      | @directive i reason ho hi hf =>
        exact .inr (.inr ⟨ho, i, reason, trace, rfl, hf.isPlain, hi, hc, hf⟩)

/-- Whether a forest shows the name x and nothing else. -/
def isName : Forest → Bool
  | [.directive (.standard .interpolation) 0 [⟨_, [.expression (.identifier "x")], _⟩] []] => true
  | _ => false

/-- The law at a tag that continues nothing, and at a name without a value where names must have
one. -/
theorem failures_of_template_strict :
    ∃ d t, Dialect.standard = .ok d ∧
      (∃ error, compile d "\x7bEND\x7d" = .error error ∧ error.isCompileError = true) ∧
      compile d "\x7bx\x7d" = .ok t ∧
      let r : Run := ⟨⟨d, .empty, [], none, ⟨false, true, false⟩, 0⟩, .fresh, .unlimited⟩
      (t.evaluate r).1 =
          .error (.evaluation (.directive "Interpolation" 0 (.undefinedIdentifier "x"))) ∧
        ∃ (i : DirectiveInstance) (reason : EvalError) (trace : List Moment),
          i.directive.name = "Interpolation" ∧ i.position = 0 ∧
            reason = .undefinedIdentifier "x" ∧ i.node.Occurs t.forest ∧
            FailedAt i reason trace := by
  have hcheck : (Dialect.standard.toOption.any fun d =>
      (compile d "\x7bx\x7d").toOption.any fun t =>
        isName t.forest) = true := by decide +kernel
  have hend : (Dialect.standard.toOption.any fun d =>
      (compile d "\x7bEND\x7d").toOption.isNone) = true := by decide +kernel
  obtain ⟨d, t, hd, ht, hshape⟩ := exists_compile hcheck
  refine ⟨d, t, hd, ?_, ht, ?_⟩
  · rw [hd, Except.toOption, Option.any_some] at hend
    cases hc : compile d "\x7bEND\x7d" with
    | ok other =>
      rw [hc] at hend
      cases hend
    | error error => exact ⟨error, rfl, (failures_of_template.1 hc).1⟩
  · intro r
    unfold isName at hshape
    split at hshape
    · next shape place hf =>
      let tag : LexedTag := ⟨shape, [.expression (.identifier "x")], place⟩
      let i : DirectiveInstance := ⟨.standard .interpolation, 0, [tag], []⟩
      have hforest : t.forest = [i.node] := hf
      have ha : i.directive.activate 0 tag .initial r =
          (.error (.undefinedIdentifier "x"), .initial, r) := rfl
      have hi : Course (.tags i .initial 0) (r.enter i.tags) _
          (.error (.undefinedIdentifier "x")) r := .failed rfl (.failed rfl ha)
      have hc : Course (.nodes [i.node]) r _
          (.error (.directive "Interpolation" 0 (.undefinedIdentifier "x"))) r :=
        .stopped (.directive hi)
      rw [← hforest] at hc
      have he : (t.evaluate r).1 =
          .error (.evaluation (.directive "Interpolation" 0 (.undefinedIdentifier "x"))) :=
        congrArg Prod.fst (evaluate_eq_of_course hc)
      refine ⟨he, ?_⟩
      rcases failures_of_template.2 ht he with hn | hn | ⟨-, i, reason, trace, hn, -, hi, -, hfail⟩
      · cases hn
      · cases hn
      · rw [TemplateError.evaluation.injEq, EvalError.directive.injEq] at hn
        obtain ⟨hname, hplace, hreason⟩ := hn
        exact ⟨i, reason, trace, hname.symm, hplace.symm, hreason.symm, hi, hfail⟩
    · cases hshape

end Template

end TagTemplate
