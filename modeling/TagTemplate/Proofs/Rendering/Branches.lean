import TagTemplate.Proofs.Expr.NewFrame
import TagTemplate.Proofs.Rendering.Cancellation
import TagTemplate.Proofs.Rendering.Failures
import TagTemplate.Proofs.Rendering.Loops

/-!
# Branches

A condition with one content or two is driven over its tags by what it remembers and by the ways to go.
What comes of it is what a frame around one content comes to: the first where the condition holds, the
second, if there is one, where it does not. The other content is not begun.
-/

namespace TagTemplate

namespace LexedTag

/-- A tag that is an expression between two words. -/
def Asks (tag : LexedTag) (e : Expr) : Prop :=
  ∃ word word', tag.parts = [.keyword word, .expression e, .keyword word']

/-- A tag that is a word. -/
def IsWord (tag : LexedTag) : Prop := ∃ word, tag.parts = [.keyword word]

variable {d : Dialect} {tag : LexedTag} {e : Expr} {c : Context} {host after : Host} {v : Value}

/-- The one component of an expression between two words is its value. -/
theorem Asks.values (h : tag.Asks e) (hv : (e.eval c).on host = (.ok v, after)) :
    (TagPart.values c tag.parts).on host = (.ok [v], after) := by
  obtain ⟨word, word', hp⟩ := h
  rw [hp, TagPart.values, TagPart.values, Eval.on_bind, hv]
  rfl

/-- A word has no components. -/
theorem IsWord.values (h : tag.IsWord) (c : Context) (host : Host) :
    (TagPart.values c tag.parts).on host = (.ok [], host) := by
  obtain ⟨word, hp⟩ := h
  rw [hp]
  rfl

/-- The tag that opens a condition asks for an expression. -/
theorem Filled.exists_asks (hf : tag.Filled d)
    (hs : StandardDirective.ifThen.same d.nameCase tag.shape = true) : ∃ e, tag.Asks e := by
  have hparts := hf.parts_of_same hs
  unfold Asks
  generalize tag.parts = parts at hparts ⊢
  obtain _ | ⟨⟨_⟩, _ | ⟨⟨_⟩, _ | ⟨⟨_⟩, _ | _⟩⟩⟩ := hparts
  exact ⟨_, _, _, rfl⟩

/-- A tag that is declared as a word is one. -/
theorem Filled.isWord {word : String} (hf : tag.Filled d)
    (hs : (⟨[.keyword word]⟩ : TagShape).same d.nameCase tag.shape = true) : tag.IsWord := by
  have hparts := hf.parts_of_same hs
  unfold IsWord
  generalize tag.parts = parts at hparts ⊢
  obtain _ | ⟨⟨_⟩, _ | _⟩ := hparts
  exact ⟨_, rfl⟩

end LexedTag

/-- An instance of a condition: `yes` is its content where the expression holds, and `no` where it does
not, without nodes if there is only one content. -/
inductive DirectiveInstance.Branches (e : Expr) (yes : Forest) :
    Forest → DirectiveInstance → Prop
  /-- There is one content. -/
  | conditional (position : Nat) {first last : LexedTag} (hf : first.Asks e) (hl : last.IsWord) :
    Branches e yes [] ⟨.standard .conditional, position, [first, last], [yes]⟩
  /-- There are two. -/
  | alternative (position : Nat) (no : Forest) {first middle last : LexedTag} (hf : first.Asks e)
      (hm : middle.IsWord) (hl : last.IsWord) :
    Branches e yes no ⟨.standard .alternative, position, [first, middle, last], [yes, no]⟩

/-- In what is compiled every condition has a content or two. -/
theorem DirectiveInstance.exists_branches {draft : Dialect.Draft} {d : Dialect}
    (hd : Dialect.ofDraft draft = .ok d) {i : DirectiveInstance}
    (hf : d.Fits i.directive i.position i.tags i.bodies) (ht : ∀ tag ∈ i.tags, tag.Filled d)
    (hs : i.directive = .standard .conditional ∨ i.directive = .standard .alternative) :
    ∃ e yes no, Branches e yes no i := by
  obtain ⟨directive, position, tags, bodies⟩ := i
  obtain rfl | rfl : directive = .standard .conditional ∨ directive = .standard .alternative := hs
  · obtain ⟨hlength, htags, -⟩ := tags_of_fits hd hf ht rfl
    obtain ⟨first, last, rfl⟩ := List.length_eq_two.mp hlength
    obtain ⟨yes, rfl⟩ := List.length_eq_one_iff.mp (Nat.succ.inj hf.separated)
    obtain ⟨_, ⟨⟩, hfirst, hopens⟩ := htags 0 _ rfl
    obtain ⟨_, ⟨⟩, hlast, hcloses⟩ := htags 1 _ rfl
    obtain ⟨e, he⟩ := hfirst.exists_asks hopens
    exact ⟨e, yes, [], .conditional position he (hlast.isWord hcloses)⟩
  · obtain ⟨hlength, htags, -⟩ := tags_of_fits hd hf ht rfl
    obtain ⟨first, middle, last, rfl⟩ := List.length_eq_three.mp hlength
    obtain ⟨yes, no, rfl⟩ := List.length_eq_two.mp (Nat.succ.inj hf.separated)
    obtain ⟨_, ⟨⟩, hfirst, hopens⟩ := htags 0 _ rfl
    obtain ⟨_, ⟨⟩, hmiddle, hdivides⟩ := htags 1 _ rfl
    obtain ⟨_, ⟨⟩, hlast, hcloses⟩ := htags 2 _ rfl
    obtain ⟨e, he⟩ := hfirst.exists_asks hopens
    exact ⟨e, yes, no,
      .alternative position no he (hmiddle.isWord hdivides) (hlast.isWord hcloses)⟩

/-- The rendering in a frame of its own. -/
def Run.inFrame (x : Rendering) : Rendering := fun r =>
  ((x r.openFrame).1, (x r.openFrame).2.closeFrame)

/-- A moment of an instance itself: it is begun, or a tag of it is come to or activated. -/
def Moment.IsOf (i : DirectiveInstance) (m : Moment) : Prop :=
  match m.happening with
  | .node node => node = i.node
  | .tag j _ | .activation j _ _ _ => j = i
  | .text _ | .write _ => False

/-- An activation that only says where to go. -/
theorem Directive.activate_of_go {s : StandardDirective} {index : Nat} {tag : LexedTag}
    {state state' : DirectiveState} {r : Run} {components : List Value} {host : Host} {flow : Flow}
    (hv : (TagPart.values r.context tag.parts).on r.host = (.ok components, host))
    (he : s.execute index components state r.context =
      StandardDirective.go flow state' r.context) :
    (Directive.standard s).activate index tag state r =
      (.ok ⟨flow, none⟩, state', { r with host }) := by
  unfold activate
  rw [hv]
  dsimp only [execute]
  rw [he]
  rfl

/-- The evaluation stays cancelled. -/
theorem Tells.isCancelled_last {r last : Run} {trace : List Moment} (h : Tells r trace last)
    (hr : r.isCancelled = true) : last.isCancelled = true := by
  induction h with
  | nil h => rwa [h.isCancelled_eq]
  | cons ha _ ih =>
    rw [← ha.isCancelled_eq] at hr
    exact ih (Moment.isCancelled_after hr)

/-- So it is not cancelled before a course at the end of which it is not. -/
theorem Course.isCancelled_eq_false {s : Stretch} {r last : Run} {trace : List Moment}
    {result : Except EvalError Unit} (h : Course s r trace result last)
    (hl : last.isCancelled = false) : r.isCancelled = false := by
  rw [← Bool.not_eq_true] at hl ⊢
  exact mt h.tells.isCancelled_last hl

section silent

variable {i : DirectiveInstance} {index : Nat} {tag : LexedTag} {state state' : DirectiveState}
  {r between last : Run} {trace : List Moment} {result : Except EvalError Unit} {flow : Flow}

/-- The moments of a visit that says where to go and writes nothing. -/
def silentVisit (i : DirectiveInstance) (index : Nat) (tag : LexedTag) (state : DirectiveState)
    (r : Run) : List Moment :=
  [⟨.tag i index, r⟩, ⟨.activation i index tag state, r⟩]

/-- They are the instance's own. -/
theorem isOf_silentVisit : ∀ m ∈ silentVisit i index tag state r, m.IsOf i := by
  simp [silentVisit, Moment.IsOf]

/-- There is nothing to a visit but the answer, if that has no text. -/
theorem Visit.eq_of_silent {found : Except EvalError Flow} {kept : DirectiveState}
    (h : Visit i index tag state r trace found kept last) (hc : r.isCancelled = false)
    (ha : i.directive.activate index tag state r = (.ok ⟨flow, none⟩, state', between)) :
    trace = silentVisit i index tag state r ∧ found = .ok flow ∧ kept = state' ∧
      last = between := by
  cases h with
  | cancelled hc' =>
    rw [hc] at hc'
    cases hc'
  | failed _ ha' => cases ha.symm.trans ha'
  | unwritten _ ha' ho =>
    cases ha.symm.trans ha'
    cases ho
  | answered _ ha' ho =>
    cases ha.symm.trans ha'
    cases ho
    exact ⟨rfl, rfl, rfl, rfl⟩

/-- What follows where an instance has been told the way to go at a tag. -/
def GoesOn (i : DirectiveInstance) (state : DirectiveState) (index : Nat) (r : Run)
    (trace : List Moment) (result : Except EvalError Unit) (last : Run) : Flow → Prop
  | .terminate => trace = [] ∧ result = .ok () ∧ last = r
  | .restart => Course (.tags i state 0) r trace result last
  | .skip => Course (.tags i state (index + 1)) r trace result last
  | .evaluate =>
    match i.bodies[index]? with
    | none => trace = [] ∧ result = .ok () ∧ last = r
    | some body =>
      (∃ error, result = .error error) ∧ Course (.nodes body) r trace result last ∨
        ∃ inside after between, trace = inside ++ after ∧
          Course (.nodes body) r inside (.ok ()) between ∧
          Course (.tags i state (index + 1)) between after result last

/-- What happens at a tag is a visit of it and, unless that fails, what follows its answer. -/
theorem Course.exists_visit (h : Course (.tags i state index) r trace result last)
    (ht : i.tags[index]? = some tag) :
    ∃ before found kept between rest, trace = before ++ rest ∧
      Visit i index tag state r before found kept between ∧
      ((∃ error, found = .error error ∧ rest = [] ∧ result = .error error ∧ last = between) ∨
        ∃ flow, found = .ok flow ∧ GoesOn i kept index between rest result last flow) := by
  cases h with
  | past _ ht' => cases ht.symm.trans ht'
  | failed ht' hv =>
    cases ht.symm.trans ht'
    exact ⟨trace, _, _, _, [], (List.append_nil _).symm, hv, .inl ⟨_, rfl, rfl, rfl, rfl⟩⟩
  | ended ht' hv =>
    cases ht.symm.trans ht'
    exact ⟨trace, _, _, _, [], (List.append_nil _).symm, hv, .inr ⟨_, rfl, rfl, rfl, rfl⟩⟩
  | restarted ht' hv h =>
    cases ht.symm.trans ht'
    exact ⟨_, _, _, _, _, rfl, hv, .inr ⟨_, rfl, h⟩⟩
  | skipped ht' hv h =>
    cases ht.symm.trans ht'
    exact ⟨_, _, _, _, _, rfl, hv, .inr ⟨_, rfl, h⟩⟩
  | bare ht' hv hb =>
    cases ht.symm.trans ht'
    refine ⟨trace, _, _, _, [], (List.append_nil _).symm, hv, .inr ⟨_, rfl, ?_⟩⟩
    rw [GoesOn, hb]
    exact ⟨rfl, rfl, rfl⟩
  | broken ht' hv hb h =>
    cases ht.symm.trans ht'
    refine ⟨_, _, _, _, _, rfl, hv, .inr ⟨_, rfl, ?_⟩⟩
    rw [GoesOn, hb]
    exact .inl ⟨⟨_, rfl⟩, h⟩
  | entered ht' hv hb h h' =>
    cases ht.symm.trans ht'
    refine ⟨_, _, _, _, _, rfl, hv, .inr ⟨_, rfl, ?_⟩⟩
    rw [GoesOn, hb]
    exact .inr ⟨_, _, _, rfl, h, h'⟩

/-- An answer without a text leads on. -/
theorem Course.of_silent (h : Course (.tags i state index) r trace result last)
    (ht : i.tags[index]? = some tag) (hc : r.isCancelled = false)
    (ha : i.directive.activate index tag state r = (.ok ⟨flow, none⟩, state', between)) :
    ∃ rest, trace = silentVisit i index tag state r ++ rest ∧
      GoesOn i state' index between rest result last flow := by
  obtain ⟨before, found, kept, after, rest, rfl, hv, hrest⟩ := h.exists_visit ht
  obtain ⟨rfl, rfl, rfl, rfl⟩ := hv.eq_of_silent hc ha
  obtain ⟨error, hfailed, -⟩ | ⟨flow', hflow, hgoes⟩ := hrest
  · cases hfailed
  · cases hflow
    exact ⟨rest, rfl, hgoes⟩

variable {tag' : LexedTag} {body : Forest}

/-- A content that is evaluated is all that happens, but for the visits of the tag before it and of the
tag after it, if that ends the directive. -/
theorem Course.of_branch (h : Course (.tags i state index) r trace result last)
    (hl : last.isCancelled = false) (ht : i.tags[index]? = some tag)
    (ht' : i.tags[index + 1]? = some tag') (hb : i.bodies[index]? = some body)
    (ha : i.directive.activate index tag state r = (.ok ⟨.evaluate, none⟩, state', between))
    (hend : ∀ r,
      i.directive.activate (index + 1) tag' state' r = (.ok ⟨.terminate, none⟩, state', r)) :
    ∃ before inside after, trace = before ++ inside ++ after ∧
      Course (.nodes body) between inside result last ∧ ∀ m ∈ before ++ after, m.IsOf i := by
  obtain ⟨rest, rfl, hrest⟩ := h.of_silent ht (h.isCancelled_eq_false hl) ha
  rw [GoesOn, hb] at hrest
  rcases hrest with ⟨-, hinside⟩ | ⟨inside, after, r', rfl, hinside, hafter⟩
  · refine ⟨silentVisit i index tag state r, rest, [], (List.append_nil _).symm, hinside, ?_⟩
    rw [List.append_nil]
    exact isOf_silentVisit
  · obtain ⟨rest', rfl, rfl, rfl, rfl⟩ :=
      hafter.of_silent ht' (hafter.isCancelled_eq_false hl) (hend r')
    rw [List.append_nil, ← List.append_assoc]
    exact ⟨_, inside, _, rfl, hinside,
      List.forall_mem_append.mpr ⟨isOf_silentVisit, isOf_silentVisit⟩⟩

end silent

namespace DirectiveInstance

variable {e : Expr} {yes no : Forest} {i : DirectiveInstance} {r last : Run} {v : Value} {host : Host}
  {trace : List Moment} {result : Except EvalError Unit}

/-- A condition that is driven from its first tag evaluates one of its contents, and all else that
happens is its own. -/
theorem Branches.exists_inside (h : Branches e yes no i)
    (hv : (e.eval r.context).on r.host = (.ok v, host))
    (hc : Course (.tags i .initial 0) r trace result last) (hl : last.isCancelled = false) :
    ∃ before inside after, trace = before ++ inside ++ after ∧
      Course (.nodes (if v.toBool then yes else no)) { r with host } inside result last ∧
      ∀ m ∈ before ++ after, m.IsOf i := by
  have hr := hc.isCancelled_eq_false hl
  cases h with
  | @conditional position first final hf hfinal =>
    let i : DirectiveInstance := ⟨.standard .conditional, position, [first, final], [yes]⟩
    have ha : i.directive.activate 0 first .initial r =
        (.ok ⟨if v.toBool then .evaluate else .terminate, none⟩, .initial, { r with host }) :=
      Directive.activate_of_go (hf.values hv) rfl
    by_cases hb : v.toBool = true
    · rw [if_pos hb] at ha ⊢
      exact hc.of_branch hl rfl rfl rfl ha fun r => Directive.activate_of_go (hfinal.values _ _) rfl
    · rw [if_neg hb] at ha ⊢
      obtain ⟨rest, rfl, rfl, rfl, rfl⟩ := hc.of_silent rfl hr ha
      refine ⟨silentVisit i 0 first .initial r, [], [], (List.append_nil _).symm, .done _, ?_⟩
      rw [List.append_nil]
      exact isOf_silentVisit
  | @alternative position no first middle final hf hmiddle hfinal =>
    let i : DirectiveInstance :=
      ⟨.standard .alternative, position, [first, middle, final], [yes, no]⟩
    have ha : i.directive.activate 0 first .initial r =
        (.ok ⟨if v.toBool then .evaluate else .skip, none⟩, .branch v.toBool, { r with host }) :=
      Directive.activate_of_go (hf.values hv) rfl
    cases hb : v.toBool with
    | true =>
      rw [hb] at ha
      exact hc.of_branch hl rfl rfl rfl ha fun r => Directive.activate_of_go (hmiddle.values _ _) rfl
    | false =>
      rw [hb] at ha
      obtain ⟨rest, rfl, hrest⟩ := hc.of_silent rfl hr ha
      have ha' : i.directive.activate 1 middle (.branch false) { r with host } =
          (.ok ⟨.evaluate, none⟩, .branch false, { r with host }) :=
        Directive.activate_of_go (hmiddle.values _ _) rfl
      obtain ⟨before, inside, after, rfl, hinside, hown⟩ :=
        hrest.of_branch hl rfl rfl rfl ha' fun r => Directive.activate_of_go (hfinal.values _ _) rfl
      refine ⟨silentVisit i 0 first .initial r ++ before, inside, after, ?_, hinside, ?_⟩
      · simp only [List.append_assoc]
        rfl
      · rw [List.append_assoc]
        exact List.forall_mem_append.mpr ⟨isOf_silentVisit, hown⟩

end DirectiveInstance

/-- What nodes fail for is no matter of what is around them: a directive passes it on. -/
theorem Failure.settle_eq {options : EvalOptions} {forest : Forest} {trace : List Moment}
    {error : EvalError} (h : Failure options forest trace error) (d : Directive) (position : Nat) :
    d.settle position options (.error error) = .error error := by
  cases h with
  | cancelled => rfl
  | write => rfl
  | directive ho => simp [Directive.settle, ho]

/-- So what comes of the nodes in a directive is what comes of the directive. -/
theorem Course.settle_eq {forest : Forest} {r last : Run} {trace : List Moment}
    {result : Except EvalError Unit} (h : Course (.nodes forest) r trace result last)
    (d : Directive) (position : Nat) :
    d.settle position last.context.options result = result := by
  cases result with
  | ok u => rfl
  | error error =>
    rw [h.sameBelow.options]
    exact Failure.settle_eq (h.fails rfl) d position

/-- After a node has been begun its directive is driven. -/
theorem Course.exists_tags {i : DirectiveInstance} {r last : Run} {trace : List Moment}
    {result : Except EvalError Unit} (h : Course (.node i.node) r trace result last) :
    ∃ driven found inside, trace = ⟨.node i.node, r⟩ :: driven ∧
      Course (.tags i .initial 0) (r.enter i.tags) driven found inside ∧
      result = i.directive.settle i.position inside.context.options found ∧
      last = inside.leave i.tags := by
  obtain ⟨d, position, tags, bodies⟩ := i
  cases h with
  | directive h => exact ⟨_, _, _, rfl, h, rfl, rfl⟩

namespace DirectiveInstance

variable {e : Expr} {yes no : Forest} {i : DirectiveInstance} {r last : Run} {v : Value} {host : Host}
  {trace : List Moment} {result : Except EvalError Unit}

/-- A condition has a frame of its own. -/
theorem Branches.one_lt_length (h : Branches e yes no i) : 1 < i.tags.length := by
  cases h <;> simp

/-- What comes of a condition is what comes of one of its contents in a frame of its own. -/
theorem Branches.exists_framed (h : Branches e yes no i)
    (hv : (e.eval r.context).on r.host = (.ok v, host))
    (hc : Course (.node i.node) r trace result last) (hl : last.isCancelled = false) :
    ∃ before inside after last', trace = before ++ inside ++ after ∧
      Course (.nodes (if v.toBool then yes else no)) { r.openFrame with host } inside result last' ∧
      last = last'.closeFrame ∧ ∀ m ∈ before ++ after, m.IsOf i := by
  obtain ⟨driven, found, ended, rfl, hdriven, rfl, rfl⟩ := hc.exists_tags
  rw [(Run.Alike.leave i.tags ended).isCancelled_eq] at hl
  rw [Run.enter, if_pos h.one_lt_length] at hdriven
  have hframe : (e.eval r.openFrame.context).on r.openFrame.host = (.ok v, host) := by
    rw [Run.openFrame, e.eval_openFrame]
    exact hv
  obtain ⟨before, inside, after, rfl, hinside, hown⟩ := h.exists_inside hframe hdriven hl
  rw [hinside.settle_eq, Run.leave, if_pos h.one_lt_length]
  exact ⟨⟨.node i.node, r⟩ :: before, inside, after, ended, rfl, hinside, rfl,
    List.forall_mem_cons.mpr ⟨rfl, hown⟩⟩

end DirectiveInstance

namespace Template

/-- **A condition evaluates one of its contents.** In every template that is compiled each condition
has one content or two. Wherever such an instance is rendered where its expression has a value, what
comes of it is, if the evaluation is never cancelled, what comes of one content in a frame that is
opened before and closed after: the first if the value is true, else the second, or nothing if there is
no second. This is so for the result, be it an error of the content or a text that is refused, for the
output and for the context. And all that happens is a course of that content, but for what the instance
does itself: no node of the other content is begun. -/
theorem conditions_evaluate_one_content :
    (∀ {draft d source t} {i : DirectiveInstance}, Dialect.ofDraft draft = .ok d →
      compile d source = .ok t → i.node.Occurs t.forest →
      i.directive = .standard .conditional ∨ i.directive = .standard .alternative →
        ∃ e yes no, i.Branches e yes no) ∧
      ∀ {i : DirectiveInstance} {e yes no}, i.Branches e yes no →
        ∀ {r : Run} {v host}, (e.eval r.context).on r.host = (.ok v, host) →
          (i.node.render r).2.isCancelled = false →
            let content := if v.toBool then yes else no
            i.node.render r = Run.inFrame (Node.renderAll content) { r with host } ∧
              ∀ {trace result last}, Course (.node i.node) r trace result last →
                ∃ before inside after last', trace = before ++ inside ++ after ∧
                  Course (.nodes content) { r.openFrame with host } inside result last' ∧
                  last = last'.closeFrame ∧ ∀ m ∈ before ++ after, m.IsOf i := by
  refine ⟨fun {draft d source t i} hd ht hi hs => ?_,
    fun {i e yes no} hb {r v host} hv hl => ⟨?_, ?_⟩⟩
  · obtain ⟨hfits, hfilled⟩ := (everywhere_of_compile ht).of_occurs hi
    exact DirectiveInstance.exists_branches hd hfits hfilled hs
  · obtain ⟨trace, hc⟩ := Stretch.exists_course (.node i.node) r
    obtain ⟨before, inside, after, last, -, hinside, hlast, -⟩ := hb.exists_framed hv hc hl
    have hcontent : Node.renderAll (if v.toBool then yes else no) { r.openFrame with host } =
        ((i.node.render r).1, last) := hinside.render_eq
    refine Prod.ext ?_ (hlast.trans ?_)
    · exact (congrArg Prod.fst hcontent).symm
    · exact congrArg (fun outcome => Run.closeFrame (Prod.snd outcome)) hcontent.symm
  · intro trace result last hc
    have hend : i.node.render r = (result, last) := hc.render_eq
    rw [hend] at hl
    exact hb.exists_framed hv hc hl

/-- Whether a forest is a condition that holds, with the name y in its first content. -/
def isConditionOnName : Forest → Bool
  | [.directive (.standard .alternative) 0
      [⟨_, [.keyword "IF", .expression (.literal (.bool true)), .keyword "THEN"], _⟩,
        ⟨_, [.keyword "ELSE"], _⟩, ⟨_, [.keyword "END"], _⟩]
      [[.directive (.standard .interpolation) 14 [⟨_, [.expression (.identifier "y")], _⟩] []],
        [.text "b" _]]] => true
  | _ => false

/-- The law where the first content fails, as a name in it has no value and names must have one. -/
theorem conditions_evaluate_one_content_failing :
    ∃ d t, Dialect.standard = .ok d ∧
      compile d "\x7bIF true THEN\x7d\x7by\x7d\x7bELSE\x7db\x7bEND\x7d" = .ok t ∧
      ∃ (i inner : DirectiveInstance),
        let r : Run := ⟨⟨d, .empty, [], none, ⟨false, true, false⟩, 0⟩, .fresh, .unlimited⟩
        t.forest = [i.node] ∧
          i.node.render r = Run.inFrame (Node.renderAll [inner.node]) r ∧
          (i.node.render r).1 =
            .error (.directive "Interpolation" 14 (.undefinedIdentifier "y")) := by
  have hcheck : (Dialect.standard.toOption.any fun d => (compile d
      "\x7bIF true THEN\x7d\x7by\x7d\x7bELSE\x7db\x7bEND\x7d").toOption.any fun t =>
        isConditionOnName t.forest) = true := by decide +kernel
  obtain ⟨d, t, hd, ht, hshape⟩ := exists_compile hcheck
  refine ⟨d, t, hd, ht, ?_⟩
  unfold isConditionOnName at hshape
  split at hshape
  · next shape place shape' place' shape'' place'' shown shownPlace position hf =>
    let r : Run := ⟨⟨d, .empty, [], none, ⟨false, true, false⟩, 0⟩, .fresh, .unlimited⟩
    let inner : DirectiveInstance := ⟨.standard .interpolation, 14,
      [⟨shown, [.expression (.identifier "y")], shownPlace⟩], []⟩
    let i : DirectiveInstance := ⟨.standard .alternative, 0,
      [⟨shape, [.keyword "IF", .expression (.literal (.bool true)), .keyword "THEN"], place⟩,
        ⟨shape', [.keyword "ELSE"], place'⟩, ⟨shape'', [.keyword "END"], place''⟩],
      [[inner.node], [.text "b" position]]⟩
    have hbranches : i.Branches (.literal (.bool true)) [inner.node] [.text "b" position] :=
      .alternative 0 _ ⟨_, _, rfl⟩ ⟨_, rfl⟩ ⟨_, rfl⟩
    have hfails : Course (.tags inner .initial 0) r.openFrame _
        (.error (.undefinedIdentifier "y")) r.openFrame := .failed rfl (.failed rfl rfl)
    have hcourse : Course (.node i.node) r _
        (.error (.directive "Interpolation" 14 (.undefinedIdentifier "y"))) r :=
      .directive (.broken rfl (.of_silent rfl rfl) rfl (.stopped (.directive hfails)))
    have hend : i.node.render r = (_, r) := hcourse.render_eq
    have hlaw := (conditions_evaluate_one_content.2 hbranches (r := r) rfl (by rw [hend]; rfl)).1
    exact ⟨i, inner, hf, hlaw, by rw [hend]⟩
  · cases hshape

end Template

end TagTemplate
