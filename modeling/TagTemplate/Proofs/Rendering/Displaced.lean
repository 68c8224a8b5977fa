import TagTemplate.Proofs.Forest.Concatenation
import TagTemplate.Proofs.Rendering.Outputs

/-!
# Renderings of what stands further on

Nodes that stand further on in a template are rendered in the same way. An error says where the
directive stands that failed, and this place alone is further on.
-/

namespace TagTemplate

/-- The error, of a directive so many bytes further on. -/
def EvalError.displaced (n : Nat) : EvalError → EvalError
  | .directive name position source => .directive name (position + n) source
  | error => error

/-- The error of an evaluation, of a directive so many bytes further on. -/
def TemplateError.displaced (n : Nat) : TemplateError → TemplateError
  | .evaluation error => .evaluation (error.displaced n)
  | error => error

theorem TemplateError.ofEval_displaced (n : Nat) (error : EvalError) :
    ofEval (error.displaced n) = (ofEval error).displaced n := by
  cases error <;> rfl

/-- The instance, so many bytes further on. -/
def DirectiveInstance.displaced (n : Nat) (i : DirectiveInstance) : DirectiveInstance where
  directive := i.directive
  position := i.position + n
  tags := i.tags.map (LexedTag.displaced n)
  bodies := i.bodies.map (Forest.displaced n)

/-- The stretch, so many bytes further on. -/
def Stretch.displaced (n : Nat) : Stretch → Stretch
  | .node inner => .node (inner.displaced n)
  | .nodes forest => .nodes (Forest.displaced n forest)
  | .tags i state index => .tags (i.displaced n) state index

variable {i : DirectiveInstance} {index n : Nat} {tag : LexedTag} {state state' : DirectiveState}
  {r last : Run} {trace : List Moment}

theorem DirectiveInstance.node_displaced (i : DirectiveInstance) (n : Nat) :
    i.node.displaced n = (i.displaced n).node := by
  dsimp only [node, Node.displaced]
  rw [Forest.displacedBodies_eq_map]
  rfl

/-- Whether a directive has a frame of its own does not depend on where it stands. -/
theorem Run.enter_displaced (tags : List LexedTag) (n : Nat) (r : Run) :
    r.enter (tags.map (LexedTag.displaced n)) = r.enter tags := by
  unfold enter
  rw [List.length_map]

theorem Run.leave_displaced (tags : List LexedTag) (n : Nat) (r : Run) :
    r.leave (tags.map (LexedTag.displaced n)) = r.leave tags := by
  unfold leave
  rw [List.length_map]

/-- A text fails where it stands, which no error says. -/
theorem Offer.mapError_displaced {emit : Option String} {result : Except EvalError Unit}
    (h : Offer emit r trace result last) (n : Nat) :
    result.mapError (EvalError.displaced n) = result := by
  cases h <;> rfl

/-- A visit fails for a reason that says no place. -/
theorem Visit.error_displaced {error : EvalError}
    (h : Visit i index tag state r trace (.error error) state' last) (n : Nat) :
    error.displaced n = error := by
  cases h with
  | cancelled => rfl
  | failed _ ha =>
    have hp : error.isPlain = true :=
      Directive.failsPlainly_activate i.directive index tag state r _ (congrArg Prod.fst ha)
    cases error with
    | directive => cases hp
    | _ => rfl
  | unwritten _ _ ho => exact Except.error.inj (ho.mapError_displaced n)

/-- A directive that stands further on names that place. -/
theorem Directive.settle_displaced (d : Directive) (position n : Nat) (options : EvalOptions)
    (result : Except EvalError Unit) :
    d.settle (position + n) options (result.mapError (EvalError.displaced n)) =
      (d.settle position options result).mapError (EvalError.displaced n) := by
  cases ho : options.ignoresErrors with
  | true => cases result with
    | ok u => rfl
    | error error => cases error <;> simp [settle, Except.mapError, EvalError.displaced, ho]
  | false => cases result with
    | ok u => rfl
    | error error => cases error <;> simp [settle, Except.mapError, EvalError.displaced, ho]

/-- A tag that stands further on is visited in the same way, and then the directive goes on. -/
theorem Visit.render_displaced {result : Except EvalError Flow}
    (h : Visit i index tag state r trace result state' last) (ht : i.tags[index]? = some tag)
    (n : Nat) :
    (Stretch.tags (i.displaced n) state index).render r =
      andThen (result, last) ((i.displaced n).goOn index state') := by
  have ht' : (i.displaced n).tags[index]? = some (tag.displaced n) := by
    rw [DirectiveInstance.displaced, List.getElem?_map, ht]
    rfl
  exact Stretch.render_visit ht' h.visit_eq

/-- The content after a tag is further on. -/
theorem DirectiveInstance.bodies_displaced {body : Option Forest}
    (h : i.bodies[index]? = body) :
    (i.displaced n).bodies[index]? = body.map (Forest.displaced n) := by
  rw [displaced, List.getElem?_map, h]

/-- A stretch that stands further on takes the same course, but for the places in errors. -/
theorem Course.render_displaced {s : Stretch} {result : Except EvalError Unit}
    (h : Course s r trace result last) (n : Nat) :
    (s.displaced n).render r = (result.mapError (EvalError.displaced n), last) := by
  induction h with
  | text ho =>
    dsimp only [Stretch.displaced, Node.displaced, Stretch.render, Node.render]
    rw [Run.putText_eq, ho.mapError_displaced]
    exact ho.putAny_eq
  | @directive i r last trace result h ih =>
    have hdriven : (Stretch.tags (i.displaced n) .initial 0).render (r.enter (i.displaced n).tags) =
        (result.mapError (EvalError.displaced n), last) := by
      rw [DirectiveInstance.displaced, Run.enter_displaced]
      exact ih
    rw [Stretch.displaced, DirectiveInstance.node_displaced, Stretch.render_node, hdriven]
    dsimp only [DirectiveInstance.displaced]
    rw [Run.leave_displaced, Directive.settle_displaced]
  | done => rfl
  | stopped _ ih =>
    dsimp only [Stretch.displaced, Forest.displaced] at ih ⊢
    rw [Stretch.render_cons, ih]
    rfl
  | next _ _ ih ih' =>
    dsimp only [Stretch.displaced, Forest.displaced] at ih ih' ⊢
    rw [Stretch.render_cons, ih]
    exact ih'
  | @past i state index r ht =>
    have ht' : (i.displaced n).tags[index]? = none := by
      rw [DirectiveInstance.displaced, List.getElem?_map, ht]
      rfl
    simp only [Stretch.displaced, Stretch.render_tags, ht']
    rfl
  | failed ht hv =>
    rw [Stretch.displaced, hv.render_displaced ht]
    exact congrArg (Except.error · , _) (hv.error_displaced n).symm
  | ended ht hv => exact hv.render_displaced ht n
  | restarted ht hv _ ih => exact (hv.render_displaced ht n).trans ih
  | skipped ht hv _ ih => exact (hv.render_displaced ht n).trans ih
  | bare ht hv hb =>
    rw [Stretch.displaced, hv.render_displaced ht]
    simp only [andThen, DirectiveInstance.goOn, DirectiveInstance.bodies_displaced hb]
    rfl
  | broken ht hv hb _ ih =>
    rw [Stretch.displaced, hv.render_displaced ht]
    simp only [andThen, DirectiveInstance.goOn, DirectiveInstance.bodies_displaced hb,
      Option.map_some]
    rw [Stretch.displaced] at ih
    rw [ih]
    rfl
  | entered ht hv hb _ _ ih ih' =>
    rw [Stretch.displaced, hv.render_displaced ht]
    simp only [andThen, DirectiveInstance.goOn, DirectiveInstance.bodies_displaced hb,
      Option.map_some]
    rw [Stretch.displaced] at ih
    rw [ih]
    exact ih'

/-- Nodes that stand further on come to the same, but for the place in an error. -/
theorem Stretch.render_displaced (s : Stretch) (n : Nat) (r : Run) :
    (s.displaced n).render r =
      ((s.render r).1.mapError (EvalError.displaced n), (s.render r).2) := by
  obtain ⟨trace, hc⟩ := s.exists_course r
  exact hc.render_displaced n

end TagTemplate
