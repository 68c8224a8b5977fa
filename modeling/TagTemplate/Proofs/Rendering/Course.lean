import TagTemplate.Proofs.Forest.Occurrences
import TagTemplate.Proofs.Rendering.Visit
import TagTemplate.Template

/-!
# The course of a rendering

What a rendering does, moment by moment: which nodes it begins, which tags it comes to and
activates, which texts it comes to and hands to the output, and the run in which each of these
happens. The rules give the course together with the result and the run at the end. Every
rendering has a course, and what has a course by the rules is what the renderer computes, so that
a law of renderings can be shown along their courses.
-/

namespace TagTemplate

/-- What happens at a moment of a rendering. -/
inductive Happening where
  /-- A node is begun. -/
  | node (node : Node)
  /-- A tag is come to; the cancellation flag is looked at. -/
  | tag (i : DirectiveInstance) (index : Nat)
  /-- A tag is activated while the instance remembers `state`: the slots are evaluated and the
  directive is executed. -/
  | activation (i : DirectiveInstance) (index : Nat) (tag : LexedTag) (state : DirectiveState)
  /-- A text is come to; the cancellation flag is looked at. -/
  | text (s : String)
  /-- A text is handed to the output. -/
  | write (s : String)

/-- A moment of a rendering. -/
structure Moment where
  /-- What happens. -/
  happening : Happening
  /-- The run in which it happens. -/
  run : Run

/-- How a text is come to, if there is one, and what comes of it. -/
inductive Offer : Option String → Run → List Moment → Except EvalError Unit → Run → Prop
  /-- There is no text. -/
  | nothing (r : Run) : Offer none r [] (.ok ()) r
  /-- The evaluation is cancelled before the text. -/
  | cancelled {r : Run} (s : String) (hc : r.isCancelled = true) :
    Offer (some s) r [⟨.text s, r⟩] (.error .cancelled) r
  /-- The output refuses the text. -/
  | refused {r : Run} {s : String} (hc : r.isCancelled = false) (hf : r.output.fits s = false) :
    Offer (some s) r [⟨.text s, r⟩, ⟨.write s, r⟩] (.error .write) r
  /-- The output takes the text. -/
  | taken {r : Run} {s : String} (hc : r.isCancelled = false) (hf : r.output.fits s = true) :
    Offer (some s) r [⟨.text s, r⟩, ⟨.write s, r⟩] (.ok ()) { r with output := r.output.append s }

/-- How a tag is visited, and what comes of it: a way to go or an error, what the instance then
remembers, and the run. -/
inductive Visit (i : DirectiveInstance) (index : Nat) (tag : LexedTag) (state : DirectiveState)
    (r : Run) : List Moment → Except EvalError Flow → DirectiveState → Run → Prop
  /-- The evaluation is cancelled before the tag. -/
  | cancelled (hc : r.isCancelled = true) :
    Visit i index tag state r [⟨.tag i index, r⟩] (.error .cancelled) state r
  /-- The activation fails. -/
  | failed {error : EvalError} {state' : DirectiveState} {last : Run} (hc : r.isCancelled = false)
    (ha : i.directive.activate index tag state r = (.error error, state', last)) :
    Visit i index tag state r [⟨.tag i index, r⟩, ⟨.activation i index tag state, r⟩]
      (.error error) state' last
  /-- The text of the answer cannot be written. -/
  | unwritten {activation : Activation} {error : EvalError} {state' : DirectiveState}
    {between last : Run} {trace : List Moment} (hc : r.isCancelled = false)
    (ha : i.directive.activate index tag state r = (.ok activation, state', between))
    (ho : Offer activation.emit between trace (.error error) last) :
    Visit i index tag state r
      (⟨.tag i index, r⟩ :: ⟨.activation i index tag state, r⟩ :: trace) (.error error) state' last
  /-- The answer says where to go. -/
  | answered {activation : Activation} {state' : DirectiveState} {between last : Run}
    {trace : List Moment} (hc : r.isCancelled = false)
    (ha : i.directive.activate index tag state r = (.ok activation, state', between))
    (ho : Offer activation.emit between trace (.ok ()) last) :
    Visit i index tag state r
      (⟨.tag i index, r⟩ :: ⟨.activation i index tag state, r⟩ :: trace)
      (.ok activation.flow) state' last

/-- A stretch of a rendering. -/
inductive Stretch where
  /-- A node. -/
  | node (node : Node)
  /-- Nodes in turn. -/
  | nodes (forest : Forest)
  /-- An instance of a directive, from the tag at `index` on. -/
  | tags (i : DirectiveInstance) (state : DirectiveState) (index : Nat)

/-- The rendering of a stretch. -/
def Stretch.render : Stretch → Rendering
  | .node n => n.render
  | .nodes forest => Node.renderAll forest
  | .tags i state index => i.directive.drive i.tags (Node.renderBodies i.bodies) state index

/-- The course that a stretch takes from a run, with its result and the run at its end. -/
inductive Course : Stretch → Run → List Moment → Except EvalError Unit → Run → Prop
  /-- A text is shown. -/
  | text {s : String} {position : Nat} {r last : Run} {trace : List Moment}
    {result : Except EvalError Unit} (h : Offer (some (r.shown s)) r trace result last) :
    Course (.node (.text s position)) r (⟨.node (.text s position), r⟩ :: trace) result last
  /-- A directive is driven from its first tag, in a frame of its own if it has several. -/
  | directive {i : DirectiveInstance} {r last : Run} {trace : List Moment}
    {result : Except EvalError Unit}
    (h : Course (.tags i .initial 0) (r.enter i.tags) trace result last) :
    Course (.node i.node) r (⟨.node i.node, r⟩ :: trace)
      (i.directive.settle i.position last.context.options result) (last.leave i.tags)
  /-- There are no more nodes. -/
  | done (r : Run) : Course (.nodes []) r [] (.ok ()) r
  /-- A node fails. -/
  | stopped {node : Node} {rest : Forest} {r last : Run} {trace : List Moment} {error : EvalError}
    (h : Course (.node node) r trace (.error error) last) :
    Course (.nodes (node :: rest)) r trace (.error error) last
  /-- The next nodes follow a node. -/
  | next {node : Node} {rest : Forest} {r between last : Run} {trace trace' : List Moment}
    {result : Except EvalError Unit} (h : Course (.node node) r trace (.ok ()) between)
    (h' : Course (.nodes rest) between trace' result last) :
    Course (.nodes (node :: rest)) r (trace ++ trace') result last
  /-- The last tag has been left behind. -/
  | past {i : DirectiveInstance} {state : DirectiveState} {index : Nat} (r : Run)
    (ht : i.tags[index]? = none) : Course (.tags i state index) r [] (.ok ()) r
  /-- The visit of a tag fails. -/
  | failed {i : DirectiveInstance} {state state' : DirectiveState} {index : Nat} {tag : LexedTag}
    {r last : Run} {trace : List Moment} {error : EvalError} (ht : i.tags[index]? = some tag)
    (hv : Visit i index tag state r trace (.error error) state' last) :
    Course (.tags i state index) r trace (.error error) last
  /-- The directive ends. -/
  | ended {i : DirectiveInstance} {state state' : DirectiveState} {index : Nat} {tag : LexedTag}
    {r last : Run} {trace : List Moment} (ht : i.tags[index]? = some tag)
    (hv : Visit i index tag state r trace (.ok .terminate) state' last) :
    Course (.tags i state index) r trace (.ok ()) last
  /-- The directive goes back to its first tag. -/
  | restarted {i : DirectiveInstance} {state state' : DirectiveState} {index : Nat}
    {tag : LexedTag} {r between last : Run} {trace trace' : List Moment}
    {result : Except EvalError Unit} (ht : i.tags[index]? = some tag)
    (hv : Visit i index tag state r trace (.ok .restart) state' between)
    (h : Course (.tags i state' 0) between trace' result last) :
    Course (.tags i state index) r (trace ++ trace') result last
  /-- The directive goes to its next tag at once. -/
  | skipped {i : DirectiveInstance} {state state' : DirectiveState} {index : Nat} {tag : LexedTag}
    {r between last : Run} {trace trace' : List Moment} {result : Except EvalError Unit}
    (ht : i.tags[index]? = some tag)
    (hv : Visit i index tag state r trace (.ok .skip) state' between)
    (h : Course (.tags i state' (index + 1)) between trace' result last) :
    Course (.tags i state index) r (trace ++ trace') result last
  /-- There is no content to evaluate, and the directive ends. -/
  | bare {i : DirectiveInstance} {state state' : DirectiveState} {index : Nat} {tag : LexedTag}
    {r last : Run} {trace : List Moment} (ht : i.tags[index]? = some tag)
    (hv : Visit i index tag state r trace (.ok .evaluate) state' last)
    (hb : i.bodies[index]? = none) : Course (.tags i state index) r trace (.ok ()) last
  /-- The content after the tag fails. -/
  | broken {i : DirectiveInstance} {state state' : DirectiveState} {index : Nat} {tag : LexedTag}
    {body : Forest} {r between last : Run} {trace trace' : List Moment} {error : EvalError}
    (ht : i.tags[index]? = some tag)
    (hv : Visit i index tag state r trace (.ok .evaluate) state' between)
    (hb : i.bodies[index]? = some body)
    (h : Course (.nodes body) between trace' (.error error) last) :
    Course (.tags i state index) r (trace ++ trace') (.error error) last
  /-- The content after the tag is evaluated, and the next tag follows. -/
  | entered {i : DirectiveInstance} {state state' : DirectiveState} {index : Nat} {tag : LexedTag}
    {body : Forest} {r between between' last : Run} {trace trace' trace'' : List Moment}
    {result : Except EvalError Unit} (ht : i.tags[index]? = some tag)
    (hv : Visit i index tag state r trace (.ok .evaluate) state' between)
    (hb : i.bodies[index]? = some body)
    (h : Course (.nodes body) between trace' (.ok ()) between')
    (h' : Course (.tags i state' (index + 1)) between' trace'' result last) :
    Course (.tags i state index) r (trace ++ (trace' ++ trace'')) result last

section rules

variable {i : DirectiveInstance} {index : Nat} {tag : LexedTag} {state state' : DirectiveState}
  {r last : Run} {trace : List Moment}

/-- Every text is come to in some way. -/
theorem exists_offer (emit : Option String) (r : Run) :
    ∃ trace, Offer emit r trace (Run.putAny emit r).1 (Run.putAny emit r).2 := by
  cases emit with
  | none => exact ⟨[], .nothing r⟩
  | some s =>
    dsimp only [Run.putAny, Run.put]
    split
    · next hc => exact ⟨_, .cancelled s hc⟩
    · next hc =>
      rw [Bool.not_eq_true] at hc
      split
      · next hf => exact ⟨_, .taken hc hf⟩
      · next hf => exact ⟨_, .refused hc (eq_false_of_ne_true hf)⟩

/-- What comes of a text by the rules is what is computed. -/
theorem Offer.putAny_eq {emit : Option String} {result : Except EvalError Unit}
    (h : Offer emit r trace result last) : Run.putAny emit r = (result, last) := by
  cases h with
  | nothing => rfl
  | cancelled s hc => simp [Run.putAny, Run.put, hc]
  | refused hc hf => simp [Run.putAny, Run.put, hc, hf]
  | taken hc hf => simp [Run.putAny, Run.put, hc, hf]

/-- Every tag is visited in some way. -/
theorem exists_visit (i : DirectiveInstance) (index : Nat) (tag : LexedTag)
    (state : DirectiveState) (r : Run) :
    ∃ trace, Visit i index tag state r trace (i.directive.visit index tag state r).1
      (i.directive.visit index tag state r).2.1 (i.directive.visit index tag state r).2.2 := by
  unfold Directive.visit
  split
  · next hc => exact ⟨_, .cancelled hc⟩
  · next hc =>
    rw [Bool.not_eq_true] at hc
    split
    · next ha => exact ⟨_, .failed hc ha⟩
    · next activation state' between ha =>
      obtain ⟨trace, ho⟩ := exists_offer activation.emit between
      split
      · next hp =>
        rw [hp] at ho
        exact ⟨_, .unwritten hc ha ho⟩
      · next hp =>
        rw [hp] at ho
        exact ⟨_, .answered hc ha ho⟩

/-- What comes of a visit by the rules is what is computed. -/
theorem Visit.visit_eq {result : Except EvalError Flow}
    (h : Visit i index tag state r trace result state' last) :
    i.directive.visit index tag state r = (result, state', last) := by
  cases h with
  | cancelled hc => simp [Directive.visit, hc]
  | failed hc ha => simp [Directive.visit, hc, ha]
  | unwritten hc ha ho => simp [Directive.visit, hc, ha, ho.putAny_eq]
  | answered hc ha ho => simp [Directive.visit, hc, ha, ho.putAny_eq]

end rules

theorem Node.renderBodies_eq_map (bodies : List Forest) :
    renderBodies bodies = bodies.map renderAll := by
  induction bodies with
  | nil => rfl
  | cons body bodies ih => rw [renderBodies, ih, List.map_cons]

/-- What comes of a part of a rendering, followed by the next part unless the first one fails. -/
def andThen {α β : Type} (outcome : Except EvalError α × Run)
    (next : α → Run → Except EvalError β × Run) : Except EvalError β × Run :=
  match outcome with
  | (.error error, r) => (.error error, r)
  | (.ok a, r) => next a r

/-- Where a directive goes from the tag at `index`. -/
def DirectiveInstance.goOn (i : DirectiveInstance) (index : Nat) (state : DirectiveState) :
    Flow → Rendering
  | .terminate => fun r => (.ok (), r)
  | .restart => (Stretch.tags i state 0).render
  | .skip => (Stretch.tags i state (index + 1)).render
  | .evaluate => fun r =>
    match i.bodies[index]? with
    | none => (.ok (), r)
    | some body =>
      andThen ((Stretch.nodes body).render r) fun () =>
        (Stretch.tags i state (index + 1)).render

namespace Stretch

/-- An instance is driven from its first tag inside its frame, and what comes of it is settled
outside. -/
theorem render_node (i : DirectiveInstance) (r : Run) :
    (node i.node).render r =
      (i.directive.settle i.position
          ((tags i .initial 0).render (r.enter i.tags)).2.context.options
          ((tags i .initial 0).render (r.enter i.tags)).1,
        ((tags i .initial 0).render (r.enter i.tags)).2.leave i.tags) :=
  Directive.render_eq i.directive i.position i.tags (Node.renderBodies i.bodies) r

/-- The ways on from a tag. -/
theorem render_tags (i : DirectiveInstance) (state : DirectiveState) (index : Nat) (r : Run) :
    (tags i state index).render r =
      match i.tags[index]? with
      | none => (.ok (), r)
      | some tag =>
        match i.directive.visit index tag state r with
        | (.error error, _, r) => (.error error, r)
        | (.ok .terminate, _, r) => (.ok (), r)
        | (.ok .restart, state, r) => (tags i state 0).render r
        | (.ok .skip, state, r) => (tags i state (index + 1)).render r
        | (.ok .evaluate, state, r) =>
          match i.bodies[index]? with
          | none => (.ok (), r)
          | some body =>
            match (nodes body).render r with
            | (.error error, r) => (.error error, r)
            | (.ok (), r) => (tags i state (index + 1)).render r := by
  dsimp only [render]
  rw [Directive.drive_eq]
  cases i.tags[index]? with
  | none => rfl
  | some tag =>
    dsimp only
    rcases i.directive.visit index tag state r with ⟨error | flow, state', r'⟩
    · rfl
    · cases flow with
      | terminate => rfl
      | restart => rfl
      | skip => rfl
      | evaluate =>
        dsimp only
        rw [Node.renderBodies_eq_map, List.getElem?_map]
        cases i.bodies[index]? with
        | none => rfl
        | some body => rfl

theorem render_cons (n : Node) (rest : Forest) (r : Run) :
    (nodes (n :: rest)).render r =
      andThen ((node n).render r) fun () => (nodes rest).render := by
  dsimp only [render, Node.renderAll]
  rcases n.render r with ⟨error | u, between⟩ <;> rfl

/-- A tag is visited, and then the directive goes on. -/
theorem render_visit {i : DirectiveInstance} {state state' : DirectiveState} {index : Nat}
    {tag : LexedTag} {r last : Run} {result : Except EvalError Flow}
    (ht : i.tags[index]? = some tag)
    (hv : i.directive.visit index tag state r = (result, state', last)) :
    (tags i state index).render r = andThen (result, last) (i.goOn index state') := by
  rw [render_tags, ht]
  dsimp only
  rw [hv]
  cases result with
  | error error => rfl
  | ok flow => cases flow with
    | terminate | restart | skip => rfl
    | evaluate =>
      dsimp only [andThen, DirectiveInstance.goOn]
      cases i.bodies[index]? with
      | none => rfl
      | some body =>
        dsimp only
        rcases (nodes body).render last with ⟨error | u, r'⟩ <;> rfl

/-- Every rendering of the stretch has a course. -/
def HasCourse (s : Stretch) : Prop := ∀ r, ∃ trace, Course s r trace (s.render r).1 (s.render r).2

/-- An instance has a course from every tag on if its contents have one: while it goes on, it has
less and less to do. -/
theorem hasCourse_tags {i : DirectiveInstance} (hb : ∀ body ∈ i.bodies, (nodes body).HasCourse)
    (state : DirectiveState) (index : Nat) : (tags i state index).HasCourse := by
  intro r
  induction he : i.directive.effort i.tags.length state index using
    Effort.wellFounded_less.induction generalizing state index r with
  | _ effort ih =>
    subst he
    rw [render_tags]
    cases ht : i.tags[index]? with
    | none => exact ⟨[], .past r ht⟩
    | some tag =>
      have hi : index < i.tags.length := (List.getElem?_eq_some_iff.mp ht).1
      obtain ⟨trace, hv⟩ := exists_visit i index tag state r
      dsimp only
      rcases hres : i.directive.visit index tag state r with ⟨error | flow, state', between⟩
      · rw [hres] at hv
        exact ⟨trace, .failed ht hv⟩
      · rw [hres] at hv
        cases flow with
        | terminate => exact ⟨trace, .ended ht hv⟩
        | restart =>
          obtain ⟨trace', hc⟩ :=
            ih _ (Directive.effort_visit_restart hi hres) state' 0 between rfl
          exact ⟨trace ++ trace', .restarted ht hv hc⟩
        | skip =>
          obtain ⟨trace', hc⟩ :=
            ih _ (Directive.effort_visit_next hi hres (.inr rfl)) state' (index + 1) between rfl
          exact ⟨trace ++ trace', .skipped ht hv hc⟩
        | evaluate =>
          cases hbody : i.bodies[index]? with
          | none => exact ⟨trace, .bare ht hv hbody⟩
          | some body =>
            obtain ⟨trace', hc⟩ := hb body (List.mem_of_getElem? hbody) between
            dsimp only
            rcases hr : (nodes body).render between with ⟨error | u, between'⟩
            · rw [hr] at hc
              exact ⟨trace ++ trace', .broken ht hv hbody hc⟩
            · rw [hr] at hc
              obtain ⟨trace'', hc'⟩ := ih _ (Directive.effort_visit_next hi hres (.inl rfl))
                state' (index + 1) between' rfl
              exact ⟨trace ++ (trace' ++ trace''), .entered ht hv hbody hc hc'⟩

/-- Nodes in turn have a course if each of them has one. -/
theorem hasCourse_nodes {forest : Forest} (hn : ∀ n ∈ forest, (node n).HasCourse) :
    (nodes forest).HasCourse := by
  intro r
  induction forest generalizing r with
  | nil => exact ⟨[], .done r⟩
  | cons n rest ih =>
    obtain ⟨trace, hc⟩ := hn n List.mem_cons_self r
    have hrest := ih fun m hm => hn m (List.mem_cons_of_mem n hm)
    dsimp only [render, Node.renderAll] at hc ⊢
    rcases hr : n.render r with ⟨error | u, between⟩
    · rw [hr] at hc
      exact ⟨trace, .stopped hc⟩
    · rw [hr] at hc
      obtain ⟨trace', hc'⟩ := hrest between
      exact ⟨trace ++ trace', .next hc hc'⟩

/-- A node has a course. -/
theorem hasCourse_node (n : Node) : (node n).HasCourse := by
  induction n using Node.nested_induction with
  | text s position =>
    intro r
    obtain ⟨trace, ho⟩ := exists_offer (some (r.shown s)) r
    dsimp only [render, Node.render]
    rw [Run.putText_eq]
    exact ⟨_, .text ho⟩
  | directive i ih =>
    intro r
    have hb : ∀ body ∈ i.bodies, (nodes body).HasCourse :=
      fun body hm => hasCourse_nodes (ih body hm)
    obtain ⟨trace, hc⟩ := hasCourse_tags hb .initial 0 (r.enter i.tags)
    rw [render_node]
    exact ⟨_, .directive hc⟩

/-- Every rendering has a course. -/
theorem exists_course (s : Stretch) (r : Run) :
    ∃ trace, Course s r trace (s.render r).1 (s.render r).2 := by
  have hn : ∀ forest : Forest, (nodes forest).HasCourse :=
    fun forest => hasCourse_nodes fun n _ => hasCourse_node n
  cases s with
  | node n => exact hasCourse_node n r
  | nodes forest => exact hn forest r
  | tags i state index => exact hasCourse_tags (fun body _ => hn body) state index r

end Stretch

/-- A text is shown as it is where blanks are kept, if the evaluation is not cancelled and the output
takes it. -/
theorem exists_course_of_text {r : Run} {s : String}
    (hk : r.context.dialect.collapsesBlanks = false) (hc : r.isCancelled = false)
    (hf : r.output.fits s = true) (position : Nat) :
    ∃ trace, Course (.node (.text s position)) r trace (.ok ())
      { r with output := r.output.append s } := by
  obtain ⟨trace, ho⟩ : ∃ trace, Offer (some (r.shown s)) r trace (.ok ())
      { r with output := r.output.append s } := by
    rw [Run.shown_of_keeps hk]
    exact ⟨_, .taken hc hf⟩
  exact ⟨_, .text ho⟩

/-- What comes of a course by the rules is what is computed. -/
theorem Course.render_eq {s : Stretch} {r last : Run} {trace : List Moment}
    {result : Except EvalError Unit} (h : Course s r trace result last) :
    s.render r = (result, last) := by
  induction h with
  | text ho => exact (Run.putText_eq _ _).trans ho.putAny_eq
  | @directive i r last trace result _ ih =>
    rw [Stretch.render_node, ih]
  | done => rfl
  | stopped _ ih => rw [Stretch.render_cons, ih, andThen]
  | next _ _ ih ih' => rw [Stretch.render_cons, ih, andThen, ih']
  | past r ht => simp only [Stretch.render_tags, ht]
  | failed ht hv => exact Stretch.render_visit ht hv.visit_eq
  | ended ht hv => exact Stretch.render_visit ht hv.visit_eq
  | restarted ht hv _ ih => exact (Stretch.render_visit ht hv.visit_eq).trans ih
  | skipped ht hv _ ih => exact (Stretch.render_visit ht hv.visit_eq).trans ih
  | bare ht hv hb =>
    rw [Stretch.render_visit ht hv.visit_eq]
    simp only [andThen, DirectiveInstance.goOn, hb]
  | broken ht hv hb _ ih =>
    rw [Stretch.render_visit ht hv.visit_eq]
    simp only [andThen, DirectiveInstance.goOn, hb, ih]
  | entered ht hv hb _ _ ih ih' =>
    rw [Stretch.render_visit ht hv.visit_eq]
    simp only [andThen, DirectiveInstance.goOn, hb, ih, ih']

namespace Template

/-- The evaluation of a template is what comes of the course of its nodes. -/
theorem evaluate_eq_of_course {t : Template} {r last : Run} {trace : List Moment}
    {result : Except EvalError Unit} (h : Course (.nodes t.forest) r trace result last) :
    t.evaluate r = (result.mapError .ofEval, last) := by
  have hr : Node.renderAll t.forest r = (result, last) := h.render_eq
  unfold evaluate
  rw [hr]
  cases result <;> rfl

/-- The nodes of a template take a course from every run. -/
theorem exists_course (t : Template) (r : Run) :
    ∃ trace result last, Course (.nodes t.forest) r trace result last := by
  obtain ⟨trace, hc⟩ := Stretch.exists_course (.nodes t.forest) r
  exact ⟨trace, _, _, hc⟩

end Template

end TagTemplate
