import TagTemplate.Proofs.Forest.Standard
import TagTemplate.Proofs.Rendering.Course
import TagTemplate.Proofs.Template.Compiled

/-!
# Frames

Whatever a rendering does and however it ends, it leaves the frames below the top frame as they
were, and a directive with several tags leaves the top frame as it was, too. In a template over
the standard directives the top frame can change only under the names that assignments outside
all such directives bind.
-/

namespace TagTemplate

/-- A text is come to in the same context in which it is left. -/
theorem Offer.context_eq {emit : Option String} {r last : Run} {trace : List Moment}
    {result : Except EvalError Unit} (h : Offer emit r trace result last) :
    last.context = r.context := by
  cases h <;> rfl

/-- A visit changes at most the top frame. -/
theorem Visit.sameBelow {i : DirectiveInstance} {index : Nat} {tag : LexedTag}
    {state state' : DirectiveState} {r last : Run} {trace : List Moment}
    {result : Except EvalError Flow} (h : Visit i index tag state r trace result state' last) :
    r.context.SameBelow last.context := by
  have ha := Directive.sameBelow_activate i.directive index tag state r
  cases h with
  | cancelled => exact .refl _
  | failed _ hf =>
    rw [hf] at ha
    exact ha
  | unwritten _ hf ho =>
    rw [hf] at ha
    exact ho.context_eq ▸ ha
  | answered _ hf ho =>
    rw [hf] at ha
    exact ho.context_eq ▸ ha

/-- Along every course at most the top frame changes. -/
theorem Course.sameBelow {s : Stretch} {r last : Run} {trace : List Moment}
    {result : Except EvalError Unit} (h : Course s r trace result last) :
    r.context.SameBelow last.context := by
  induction h with
  | text ho =>
    rw [ho.context_eq]
    exact .refl _
  | directive _ ih => exact Run.sameBelow_leave ih
  | done r => exact .refl _
  | stopped _ ih => exact ih
  | next _ _ ih ih' => exact ih.trans ih'
  | past r _ => exact .refl _
  | failed _ hv => exact hv.sameBelow
  | ended _ hv => exact hv.sameBelow
  | restarted _ hv _ ih => exact hv.sameBelow.trans ih
  | skipped _ hv _ ih => exact hv.sameBelow.trans ih
  | bare _ hv _ => exact hv.sameBelow
  | broken _ hv _ _ ih => exact hv.sameBelow.trans ih
  | entered _ hv _ _ _ ih ih' => exact hv.sameBelow.trans (ih.trans ih')

/-- A directive with several tags leaves the context as it was. -/
theorem DirectiveInstance.context_render {i : DirectiveInstance} (h : 1 < i.tags.length)
    (r : Run) : (i.node.render r).2.context = r.context := by
  obtain ⟨trace, hc⟩ := Stretch.exists_course (.tags i .initial 0) (r.enter i.tags)
  dsimp only [Stretch.render] at hc
  dsimp only [node, Node.render]
  rw [Directive.render_eq]
  exact Run.context_leave h hc.sameBelow

namespace Record

variable {α : Type}

/-- A value is found under every key but one as if that one had not been written. -/
theorem get?_insert_of_ne {key name : String} (h : key ≠ name) (value : α) (fields : Record α) :
    get? key (fields.insert name value) = get? key fields := by
  induction fields with
  | nil => simp [insert, get?, find?, NameCase.same, h.symm]
  | cons field fields ih =>
    obtain ⟨n, v⟩ := field
    unfold get? at ih
    unfold insert
    split
    · next hn =>
      subst hn
      simp [get?, find?, NameCase.same, h.symm]
    · simp only [get?, find?, ih]

end Record

namespace Context

/-- The second context differs from the first at most in the variables of the top frame under the
given keys. -/
structure SameExcept (keys : List String) (c c' : Context) : Prop where
  /-- Only the top frame differs. -/
  below : c.SameBelow c'
  /-- It has the same marks. -/
  marks : c'.top.marks = c.top.marks
  /-- It has the same variables under all other keys. -/
  bindings : ∀ key, key ∉ keys →
    Record.get? key c'.top.bindings = Record.get? key c.top.bindings

namespace SameExcept

variable {keys keys' : List String} {c c' c'' : Context}

/-- A context differs from itself in nothing. -/
theorem refl (keys : List String) (c : Context) : SameExcept keys c c :=
  ⟨.refl c, rfl, fun _ _ => rfl⟩

/-- Changes under some keys and then under others are changes under all of them. -/
theorem append (h : SameExcept keys c c') (h' : SameExcept keys' c' c'') :
    SameExcept (keys ++ keys') c c'' where
  below := h.below.trans h'.below
  marks := h'.marks.trans h.marks
  bindings key hk := by
    rw [List.mem_append, not_or] at hk
    exact (h'.bindings key hk.2).trans (h.bindings key hk.1)

/-- Binding a variable changes what is under the key of its name. -/
theorem setVariable {name : String} (h : c.dialect.nameCase.key name ∈ keys) (v : Value) :
    SameExcept keys c (c.setVariable name v) where
  below := .setVariable c name v
  marks := rfl
  bindings key hk := by
    have hne : key ≠ c.dialect.nameCase.key name := fun he => hk (he ▸ h)
    exact Record.get?_insert_of_ne hne v _

end SameExcept

end Context

/-- The name, if the part is one. -/
def TagPart.name? : TagPart → Option String
  | name word => some word
  | _ => none

/-- The names that a node binds in the frame in which it stands. -/
def Node.assigned : Node → List String
  | .directive (.standard .assignment) _ tags _ =>
    tags.flatMap fun tag => tag.parts.filterMap TagPart.name?
  | _ => []

/-- The names that the nodes of a forest bind in the frame in which they stand; what stands in a
content of theirs does not count. -/
def Forest.assigned (forest : Forest) : List String := forest.flatMap Node.assigned

namespace StandardDirective

/-- A directive with one tag ends when that is activated. -/
theorem flow_of_execute {s : StandardDirective} (h : s.shapes.length = 1) {tag : Nat}
    {components : List Value} {state state' : DirectiveState} {c c' : Context}
    {activation : Activation}
    (he : s.execute tag components state c = .ok (activation, state', c')) :
    activation.flow = .terminate := by
  cases s with
  | interpolation =>
    obtain ⟨v, -, he⟩ := bind_eq_ok_iff.mp he
    cases he
    rfl
  | conditionalInterpolation =>
    obtain ⟨v, -, he⟩ := bind_eq_ok_iff.mp he
    obtain ⟨condition, -, he⟩ := bind_eq_ok_iff.mp he
    cases he
    rfl
  | assignment =>
    obtain ⟨name, -, he⟩ := bind_eq_ok_iff.mp he
    obtain ⟨v, -, he⟩ := bind_eq_ok_iff.mp he
    cases he
    rfl
  | _ => cases h

/-- The tag of an assignment has a name and then an expression. -/
theorem parts_of_assignment {d : Dialect} {tag : LexedTag}
    (hs : TagShape.AllSame d.nameCase assignment.shapes [tag.shape]) (hf : tag.Filled d) :
    ∃ word name word' e,
      tag.parts = [.keyword word, .name name, .keyword word', .expression e] := by
  cases hs with
  | cons hs _ =>
    have hp := hf.parts_of_same hs
    generalize tag.parts = parts at hp ⊢
    cases hp with
    | cons hset hp => cases hp with
      | cons hname hp => cases hp with
        | cons hto hp => cases hp with
          | cons he hp =>
            cases hset
            cases hname
            cases hto
            cases he
            cases hp
            exact ⟨_, _, _, _, rfl⟩

/-- The activation of a tag changes nothing in the context or what the directive may change. -/
theorem changes_of_activate (s : StandardDirective) (index : Nat) (tag : LexedTag)
    (state : DirectiveState) (r : Run) :
    ((Directive.standard s).activate index tag state r).2.2.context = r.context ∨
      ∃ components host, (TagPart.values r.context tag.parts).on r.host = (.ok components, host) ∧
        Changes components r.context s
          ((Directive.standard s).activate index tag state r).2.2.context := by
  unfold Directive.activate
  split
  · exact .inl rfl
  · next components host hv =>
    dsimp only [Directive.execute, Run.afterStage]
    split
    · exact .inl rfl
    · next he => exact .inr ⟨components, host, hv, changes_of_execute he⟩

end StandardDirective

namespace Directive

/-- A visit leaves the context as it was or as the activation of the tag leaves it. -/
theorem context_visit (d : Directive) (index : Nat) (tag : LexedTag) (state : DirectiveState)
    (r : Run) :
    (d.visit index tag state r).2.2.context = r.context ∨
      (d.visit index tag state r).2.2.context = (d.activate index tag state r).2.2.context := by
  unfold visit
  split
  · exact .inl rfl
  · right
    rcases d.activate index tag state r with ⟨error | activation, state', between⟩
    · rfl
    · obtain ⟨trace, ho⟩ := exists_offer activation.emit between
      dsimp only
      rw [← ho.context_eq]
      split <;> next hp => rw [hp]

/-- A directive with one tag does what is done at it, if it ends there. -/
theorem drive_singleton {d : Directive} {tag : LexedTag} {bodies : List Rendering}
    {state : DirectiveState} {r : Run}
    (h : ∀ flow, (d.visit 0 tag state r).1 = .ok flow → flow = .terminate) :
    (d.drive [tag] bodies state 0 r).2 = (d.visit 0 tag state r).2.2 := by
  rw [drive_eq]
  dsimp only [List.getElem?_cons_zero]
  rcases hv : d.visit 0 tag state r with ⟨error | flow, state', last⟩
  · rfl
  · obtain rfl := h flow (congrArg Prod.fst hv)
    rfl

end Directive

/-- A standard directive fits tags that are, one by one, its own. -/
theorem Dialect.allSame_of_fits {draft : Draft} {d : Dialect} (hd : ofDraft draft = .ok d)
    {s : StandardDirective} {position : Nat} {tags : List LexedTag} {bodies : List Forest}
    (h : d.Fits (.standard s) position tags bodies) :
    TagShape.AllSame d.nameCase s.shapes (LexedTag.shapes tags) := by
  obtain ⟨r, hr, hs, hm⟩ := h.registered
  have hdeclared := declared_of_ofDraft hd r hr
  unfold RegisteredDirective.Declared at hdeclared
  rw [hs, Directive.tags, s.parseShapes_tags, Except.ok.injEq] at hdeclared
  rwa [hdeclared]

/-- The name in the first slot that is no keyword is the first component. -/
theorem TagPart.identifierAt_values {c : Context} {word name : String} {rest : List TagPart}
    {host after : Host} {components : List Value}
    (h : (values c (.keyword word :: .name name :: rest)).on host = (.ok components, after)) :
    identifierAt components 0 = .ok name := by
  rw [values, values, Eval.on_bind] at h
  split at h <;> cases h
  rfl

namespace StandardDirective

variable {s : StandardDirective}

/-- A directive with one tag ends after the visit of it. -/
theorem flow_of_visit (hl : s.shapes.length = 1) {index : Nat} {tag : LexedTag}
    {state : DirectiveState} {r : Run} {flow : Flow}
    (h : ((Directive.standard s).visit index tag state r).1 = .ok flow) : flow = .terminate := by
  rcases hv : (Directive.standard s).visit index tag state r with ⟨result, state', last⟩
  rw [hv] at h
  obtain rfl : result = .ok flow := h
  obtain ⟨activation, between, ha, rfl⟩ := Directive.exists_activate_of_visit hv
  obtain ⟨components, host, stage, -, he, -, -⟩ := Directive.exists_execute_of_activate ha
  dsimp only [Directive.execute] at he
  split at he <;> cases he
  next he => exact flow_of_execute hl he

/-- The visit of the one tag of a directive changes the frame at most under the names that the
directive binds. -/
theorem sameExcept_visit {d : Dialect} {tag : LexedTag}
    (hm : TagShape.AllSame d.nameCase s.shapes [tag.shape]) (hf : tag.Filled d) (position : Nat)
    (bodies : List Forest) (state : DirectiveState) (r : Run) :
    Context.SameExcept
      ((Node.directive (.standard s) position [tag] bodies).assigned.map
        r.context.dialect.nameCase.key)
      r.context ((Directive.standard s).visit 0 tag state r).2.2.context := by
  have hl : s.shapes.length = 1 := hm.length_eq
  rcases Directive.context_visit (.standard s) 0 tag state r with h | h
  · rw [h]
    exact .refl _ _
  · rw [h]
    rcases changes_of_activate s 0 tag state r with ha | ⟨components, host, hv, ha⟩
    · rw [ha]
      exact .refl _ _
    · generalize ((Directive.standard s).activate 0 tag state r).2.2.context = last at ha ⊢
      cases ha with
      | unchanged => exact .refl _ _
      | assignment v hn =>
        obtain ⟨word, name, word', e, hp⟩ := parts_of_assignment hm hf
        rw [hp] at hv
        rw [TagPart.identifierAt_values hv, Except.ok.injEq] at hn
        subst hn
        refine .setVariable (List.mem_map_of_mem ?_) v
        simp [Node.assigned, hp, TagPart.name?]
      | forEach | separatedForEach | preformatted => cases hl

end StandardDirective

section standard

variable {draft : Dialect.Draft} {d : Dialect}

/-- A standard directive changes the frame in which it stands at most under the names that it
binds there. -/
theorem DirectiveInstance.sameExcept_render (hd : Dialect.ofDraft draft = .ok d)
    {i : DirectiveInstance} (hs : i.directive ∈ Directive.allStandard)
    (hf : d.Fits i.directive i.position i.tags i.bodies) (ht : ∀ tag ∈ i.tags, tag.Filled d)
    (r : Run) :
    Context.SameExcept (i.node.assigned.map r.context.dialect.nameCase.key) r.context
      (i.node.render r).2.context := by
  by_cases h1 : 1 < i.tags.length
  · rw [context_render h1]
    exact .refl _ _
  · obtain ⟨tag, htag⟩ : ∃ tag, i.tags = [tag] := by
      have hl := hf.separated
      exact List.length_eq_one_iff.mp (by omega)
    obtain ⟨s, -, hs⟩ := List.mem_map.mp hs
    have hm : TagShape.AllSame d.nameCase s.shapes [tag.shape] := by
      have hm := Dialect.allSame_of_fits hd (hs ▸ hf)
      rwa [htag] at hm
    have hc : (i.node.render r).2.context = (i.directive.visit 0 tag .initial r).2.2.context := by
      dsimp only [node, Node.render]
      rw [Directive.render_eq, htag, ← hs]
      exact congrArg Run.context
        (Directive.drive_singleton fun _ => StandardDirective.flow_of_visit hm.length_eq)
    rw [hc, node, htag, ← hs]
    exact StandardDirective.sameExcept_visit hm (ht tag (by simp [htag])) _ _ _ r

/-- A node changes the frame in which it stands at most under the names that it binds there. -/
theorem Node.sameExcept_render (hd : Dialect.ofDraft draft = .ok d) {node : Node}
    (hs : node.Everywhere fun directive _ _ _ => directive ∈ Directive.allStandard)
    (hf : node.Everywhere fun directive position tags bodies =>
      d.Fits directive position tags bodies ∧ ∀ tag ∈ tags, tag.Filled d) (r : Run) :
    Context.SameExcept (node.assigned.map r.context.dialect.nameCase.key) r.context
      (node.render r).2.context := by
  cases hs with
  | text s position =>
    obtain ⟨trace, ho⟩ := exists_offer (some (r.shown s)) r
    have hc : ((Node.text s position).render r).2.context = r.context := by
      dsimp only [Node.render]
      rw [Run.putText_eq]
      exact ho.context_eq
    rw [hc]
    exact .refl _ _
  | @directive directive position tags bodies hs _ => cases hf with
    | directive hf _ =>
      let i : DirectiveInstance := ⟨directive, position, tags, bodies⟩
      exact i.sameExcept_render hd hs hf.1 hf.2 r

/-- Nodes change the frame in which they stand at most under the names that they bind there. -/
theorem Forest.sameExcept_render (hd : Dialect.ofDraft draft = .ok d) {forest : Forest}
    (hs : forest.Everywhere fun directive _ _ _ => directive ∈ Directive.allStandard)
    (hf : forest.Everywhere fun directive position tags bodies =>
      d.Fits directive position tags bodies ∧ ∀ tag ∈ tags, tag.Filled d) (r : Run) :
    Context.SameExcept (forest.assigned.map r.context.dialect.nameCase.key) r.context
      (Node.renderAll forest r).2.context := by
  induction forest generalizing r with
  | nil => exact .refl _ _
  | cons node forest ih =>
    have hnode := Node.sameExcept_render hd (hs node List.mem_cons_self)
      (hf node List.mem_cons_self) r
    have hrest := ih (fun n hn => hs n (List.mem_cons_of_mem node hn))
      fun n hn => hf n (List.mem_cons_of_mem node hn)
    rw [assigned, List.flatMap_cons, List.map_append]
    dsimp only [Node.renderAll]
    rcases hr : node.render r with ⟨error | u, between⟩
    · rw [hr] at hnode
      exact hnode.append (.refl _ _)
    · rw [hr] at hnode
      have hdialect : between.context.dialect = r.context.dialect := hnode.below.dialect
      exact hnode.append (hdialect ▸ hrest between)

end standard

namespace Template

/-- The evaluation of a template does to the context what the rendering of its forest does. -/
theorem context_evaluate (t : Template) (r : Run) :
    (t.evaluate r).2.context = (Node.renderAll t.forest r).2.context := by
  unfold evaluate
  split <;> next h => rw [h]

/-- The evaluation of a template over the standard directives, whatever its outcome, leaves as
many frames as there were. The frames below the top frame are as they were, and so are the
dialect, the options, the self object and the marks of the top frame. Its variables differ at most
under the keys of the names that assignments outside all contents bind. A directive with several
tags leaves the context as it was. -/
theorem frames_of_evaluate {draft : Dialect.Draft} {d : Dialect}
    (hd : Dialect.ofDraft draft = .ok d) {source : String} {t : Template}
    (ht : compile d source = .ok t)
    (hs : t.forest.Everywhere fun directive _ _ _ => directive ∈ Directive.allStandard) (r : Run) :
    let before := r.context
    let after := (t.evaluate r).2.context
    after.depth = before.depth ∧ after.outer = before.outer ∧ after.dialect = before.dialect ∧
      after.options = before.options ∧ after.self? = before.self? ∧
      after.top.marks = before.top.marks ∧
      (∀ key, key ∉ t.forest.assigned.map before.dialect.nameCase.key →
        Record.get? key after.top.bindings = Record.get? key before.top.bindings) ∧
      ∀ i : DirectiveInstance, 1 < i.tags.length →
        ∀ r', (i.node.render r').2.context = r'.context := by
  dsimp only
  have hsame := Forest.sameExcept_render hd hs (everywhere_of_compile ht) r
  rw [← context_evaluate] at hsame
  refine ⟨?_, hsame.below.outer, hsame.below.dialect, hsame.below.options, hsame.below.self,
    hsame.marks, hsame.bindings, fun _ hi r' => DirectiveInstance.context_render hi r'⟩
  rw [Context.depth, Context.depth, hsame.below.outer]

set_option maxRecDepth 1000 in
/-- The law at an assignment outside and one inside of a repetition. -/
theorem frames_of_evaluate_nested :
    let source := "\x7bSET x TO 1\x7d\x7bREPEAT 2 TIMES\x7d\x7bSET y TO x\x7d\x7by.z\x7d\x7bEND\x7d"
    ∃ d t, Dialect.standard = .ok d ∧ compile d source = .ok t ∧ t.forest.assigned = ["x"] ∧
      ∀ r : Run,
        let before := r.context
        let after := (t.evaluate r).2.context
        after.depth = before.depth ∧ after.outer = before.outer ∧
          ∀ key, key ∉ ["x"].map before.dialect.nameCase.key →
            Record.get? key after.top.bindings = Record.get? key before.top.bindings := by
  intro source
  have hcheck : (Dialect.standard.toOption.any fun d => (compile d source).toOption.any fun t =>
      decide (t.forest.assigned = ["x"])) = true := by decide +kernel
  obtain ⟨d, t, hd, ht, ha⟩ := exists_compile hcheck
  have hdraft : Dialect.ofDraft (.ofSettings "standard"
      [.standardOperators, .standardDirectives]) = .ok d := hd
  have hp : ∀ r ∈ d.directives, r.directive ∈ Directive.allStandard := by
    intro r hr
    have hm : r.directive ∈ d.directives.map RegisteredDirective.directive :=
      List.mem_map_of_mem hr
    rw [Dialect.directives_of_ofDraft hdraft] at hm
    exact hm
  have ha := of_decide_eq_true ha
  refine ⟨d, t, hd, ht, ha, fun r => ?_⟩
  obtain ⟨hdepth, houter, -, -, -, -, hbindings, -⟩ :=
    frames_of_evaluate hdraft ht (standard_of_compile ht hp) r
  rw [ha] at hbindings
  exact ⟨hdepth, houter, hbindings⟩

end Template

end TagTemplate
