import TagTemplate.Proofs.Rendering.Contents
import TagTemplate.Proofs.Sequence.Positions

/-!
# Loops

A loop looks at its source once: it goes through the elements of the first value, whatever the source
evaluates to later and whatever its contents write. The contents are evaluated in one frame, which
each finds as the one before left it; before the first content the variable is bound to the next
element. A second content is evaluated between elements only. A repetition counts its rounds once in
the same way.
-/

namespace TagTemplate

namespace Value

/-- The elements that a loop goes through: those of a list, the integers of a range, nothing where
the value is undefined, else the value alone. -/
def elements : Value → List Value
  | .undefined => []
  | .sequence (.list items) => items
  | .sequence (.range first last) =>
    (List.range (last.toInt - first.toInt + 1).toNat).map fun k : Nat => .ofInt (first.toInt + k)
  | v => [v]

/-- The number of elements of a range is an integer of the language. -/
def IsCountable : Value → Prop
  | .sequence (.range first last) => last.toInt - first.toInt + 1 ≤ Int64.maxValue.toInt
  | _ => True

end Value

namespace Cursor

/-- The start of the sequence that a value stands for gives the elements of the value. -/
theorem yields_start {v : Value} {s : Sequence Value} (h : v.toSequence? = some s)
    (hc : v.IsCountable) : (start s).Yields v.elements := by
  have hsingle : ∀ v, (start (.list [v])).Yields [v] := by
    intro v
    refine yields_of_get? (fun k => ?_) rfl
    rw [Nat.zero_add]
    rfl
  cases v with
  | undefined => cases h
  | bool | number | text | object =>
    cases h
    exact hsingle _
  | sequence s' =>
    cases h
    cases s with
    | list items =>
      refine yields_of_get? (fun k => ?_) (Nat.zero_add _).symm
      rw [Nat.zero_add]
      rfl
    | range first last =>
      have hsmall : last.toInt - first.toInt + 1 ≤ Int64.maxValue.toInt := hc
      rw [Int64.toInt_maxValue] at hsmall
      refine yields_of_get? (fun k => ?_) ?_
      · have hpositions : Nat.pow 2 63 = 2 ^ 63 := rfl
        rw [Nat.zero_add, Value.elements, List.getElem?_map, Sequence.get?, Sequence.rangeGet?,
          hpositions]
        by_cases hk : k < (last.toInt - first.toInt + 1).toNat
        · rw [List.getElem?_range hk, if_pos (by omega)]
          rfl
        · rw [List.getElem?_eq_none (by rw [List.length_range]; omega), if_neg (by omega)]
          rfl
      · have hlargest : Sequence.maxLength = 2 ^ 64 - 1 := rfl
        rw [Sequence.length, Sequence.rangeLength, hlargest, Value.elements, List.length_map,
          List.length_range]
        omega

end Cursor

namespace StandardDirective

variable {s : StandardDirective} {index : Nat} {tag : LexedTag} {state state' : DirectiveState}
  {r between : Run} {flow : Flow}

/-- A visit that finds a way to go executes the directive on the values of the slots; it changes
nothing else in the context. -/
theorem exists_execute_of_visit
    (h : (Directive.standard s).visit index tag state r = (.ok flow, state', between)) :
    ∃ components host emit, (TagPart.values r.context tag.parts).on r.host = (.ok components, host) ∧
      s.execute index components state r.context = .ok (⟨flow, emit⟩, state', between.context) := by
  unfold Directive.visit at h
  split at h
  · cases h
  · split at h
    · cases h
    · next activation after middle ha =>
      obtain ⟨trace, ho⟩ := exists_offer activation.emit middle
      split at h <;> cases h
      next hput =>
      rw [hput] at ho
      obtain ⟨components, host, stage, hvalues, he, rfl, rfl⟩ :=
        Directive.exists_execute_of_activate ha
      refine ⟨components, host, activation.emit, hvalues, ?_⟩
      rw [show between.context = stage.context from ho.context_eq]
      dsimp only [Directive.execute] at he
      split at he <;> cases he
      next he => exact he

/-- An answer without a text says where to go, and nothing else. -/
theorem eq_of_go_eq_ok {flow' : Flow} {emit : Option String} {c c' : Context}
    (h : go flow state c = .ok (⟨flow', emit⟩, state', c')) :
    flow' = flow ∧ state' = state ∧ c' = c := by
  cases h
  exact ⟨rfl, rfl, rfl⟩

/-- What the first tag of a loop does, once it is known where the loop is. -/
theorem nextItem_of_loopOf {components : List Value} {name : String} {cursor : Cursor Value}
    (h : loopOf components state = .ok (some (name, cursor))) (c : Context) :
    nextItem components state c =
      match cursor.next? Value.ofInt with
      | some (item, rest) => go .evaluate (.loop name rest) (c.setVariable name item)
      | none => go .terminate (.loop name cursor) c := by
  rcases hnext : cursor.next? Value.ofInt with _ | ⟨item, rest⟩
  · simp only [nextItem, h, hnext]
  · simp only [nextItem, h, hnext]

end StandardDirective

/-- An answer without a text ends the visit. -/
theorem Visit.of_silent {i : DirectiveInstance} {index : Nat} {tag : LexedTag}
    {state state' : DirectiveState} {r last : Run} {flow : Flow} (hc : r.isCancelled = false)
    (ha : i.directive.activate index tag state r = (.ok ⟨flow, none⟩, state', last)) :
    Visit i index tag state r [⟨.tag i index, r⟩, ⟨.activation i index tag state, r⟩] (.ok flow)
      state' last :=
  .answered hc ha (.nothing last)

/-- Contents are evaluated in turn in one frame: the first of a directive's contents after its
variable is bound to the next of the values, another in the frame as it was left. -/
inductive Handed (name : String) : List Value → Context → List Evaluated → Context → Prop
  /-- No value is left, and no content is evaluated. -/
  | done (c : Context) : Handed name [] c [] c
  /-- The first content is evaluated for the next value. -/
  | next {v : Value} {vs : List Value} {c last : Context} {e : Evaluated} {log : List Evaluated}
    (hi : e.index = 0) (hc : e.before.context = c.setVariable name v)
    (h : Handed name vs e.after.context log last) : Handed name (v :: vs) c (e :: log) last
  /-- Another content is evaluated. -/
  | between {vs : List Value} {c last : Context} {e : Evaluated} {log : List Evaluated}
    (hi : e.index ≠ 0) (hc : e.before.context = c) (h : Handed name vs e.after.context log last) :
    Handed name vs c (e :: log) last

namespace DirectiveInstance

variable {i : DirectiveInstance} {s : StandardDirective} {tag tag' tag'' : LexedTag}
  {body body' : Forest} {state : DirectiveState} {name : String} {cursor : Cursor Value}
  {v : Value} {vs : List Value} {r last : Run} {log : List Evaluated}

/-- The components of the tag at hand make a loop that goes on from a cursor. -/
def IsLoop (name : String) (cursor : Cursor Value) (tag : LexedTag) (state : DirectiveState)
    (r : Run) : Prop :=
  ∀ components host, (TagPart.values r.context tag.parts).on r.host = (.ok components, host) →
    StandardDirective.loopOf components state = .ok (some (name, cursor))

/-- Later the loop is the one that is remembered, whatever the components are. -/
theorem isLoop_loop (name : String) (cursor : Cursor Value) (tag : LexedTag) (r : Run) :
    IsLoop name cursor tag (.loop name cursor) r := fun _ _ _ => rfl

/-- A visit of a tag of a standard directive executes it on the values of the slots. -/
theorem Evaluates.visit_standard {index : Nat} (h : i.Evaluates ⟨state, index⟩ r log last)
    (hd : i.directive = .standard s) (ht : i.tags[index]? = some tag) :
    ∃ components host flow emit state' between,
      (TagPart.values r.context tag.parts).on r.host = (.ok components, host) ∧
      i.directive.visit index tag state r = (.ok flow, state', between) ∧
      s.execute index components state r.context =
        .ok (⟨flow, emit⟩, state', between.context) := by
  obtain ⟨flow, state', between, hv, -⟩ := h.visit ht
  have hstandard := hv
  rw [hd] at hstandard
  obtain ⟨components, host, emit, hvalues, he⟩ :=
    StandardDirective.exists_execute_of_visit hstandard
  exact ⟨components, host, flow, emit, state', between, hvalues, hv, he⟩

/-- A visit of the first tag of a loop takes the next item. -/
theorem Evaluates.visit_loop (h : i.Evaluates ⟨state, 0⟩ r log last)
    (hd : i.directive = .standard s) (hs : s = .forEach ∨ s = .separatedForEach)
    (ht : i.tags[0]? = some tag) :
    ∃ components host flow emit state' between,
      (TagPart.values r.context tag.parts).on r.host = (.ok components, host) ∧
      i.directive.visit 0 tag state r = (.ok flow, state', between) ∧
      StandardDirective.nextItem components state r.context =
        .ok (⟨flow, emit⟩, state', between.context) := by
  obtain rfl | rfl := hs <;> exact h.visit_standard hd ht

/-- A loop whose cursor gives nothing ends. -/
theorem Evaluates.of_yields_nil (h : i.Evaluates ⟨state, 0⟩ r log last)
    (hd : i.directive = .standard s) (hs : s = .forEach ∨ s = .separatedForEach)
    (ht : i.tags[0]? = some tag) (hl : IsLoop name cursor tag state r) (hy : cursor.Yields []) :
    log = [] ∧ last.context = r.context := by
  obtain ⟨components, host, flow, emit, state', between, hvalues, hv, hitem⟩ :=
    h.visit_loop hd hs ht
  rw [StandardDirective.nextItem_of_loopOf (hl components host hvalues), hy.1] at hitem
  obtain ⟨rfl, -, hcontext⟩ := StandardDirective.eq_of_go_eq_ok hitem
  obtain ⟨hlog, rfl⟩ := h.of_terminate ht hv
  exact ⟨hlog, hcontext⟩

/-- A loop whose cursor gives a value binds the variable to it and evaluates the first content. -/
theorem Evaluates.of_yields_cons (h : i.Evaluates ⟨state, 0⟩ r log last)
    (hd : i.directive = .standard s) (hs : s = .forEach ∨ s = .separatedForEach)
    (ht : i.tags[0]? = some tag) (hb : i.bodies[0]? = some body)
    (hl : IsLoop name cursor tag state r) (hy : cursor.Yields (v :: vs)) :
    ∃ rest between after later, rest.Yields vs ∧
      between.context = r.context.setVariable name v ∧ log = ⟨0, between, after⟩ :: later ∧
      i.Evaluates ⟨.loop name rest, 1⟩ after later last := by
  obtain ⟨rest, hnext, -, hrest⟩ := hy
  obtain ⟨components, host, flow, emit, state', between, hvalues, hv, hitem⟩ :=
    h.visit_loop hd hs ht
  rw [StandardDirective.nextItem_of_loopOf (hl components host hvalues), hnext] at hitem
  obtain ⟨rfl, rfl, hcontext⟩ := StandardDirective.eq_of_go_eq_ok hitem
  obtain ⟨after, later, -, hlog, hlater⟩ := h.of_evaluate ht hv hb
  exact ⟨rest, between, after, later, hrest, hcontext, hlog, hlater⟩

/-- A visit of a standard directive that only says where to go leads there. -/
theorem Evaluates.visit_of_go {index : Nat} {flow : Flow}
    (h : i.Evaluates ⟨state, index⟩ r log last) (hd : i.directive = .standard s)
    (ht : i.tags[index]? = some tag)
    (he : ∀ components, s.execute index components state r.context =
      StandardDirective.go flow state r.context) :
    ∃ between, between.context = r.context ∧
      i.directive.visit index tag state r = (.ok flow, state, between) := by
  obtain ⟨components, host, flow', emit, state', between, -, hv, hexecute⟩ :=
    h.visit_standard hd ht
  rw [he] at hexecute
  obtain ⟨rfl, rfl, hcontext⟩ := StandardDirective.eq_of_go_eq_ok hexecute
  exact ⟨between, hcontext, hv⟩

/-- A loop with one content evaluates it once for each value. -/
theorem Evaluates.of_forEach (h : i.Evaluates ⟨state, 0⟩ r log last)
    (hd : i.directive = .standard .forEach) (ht : i.tags[0]? = some tag)
    (ht' : i.tags[1]? = some tag') (hb : i.bodies[0]? = some body)
    (hl : IsLoop name cursor tag state r) (hy : cursor.Yields vs) :
    log.map Evaluated.index = List.replicate vs.length 0 ∧
      Handed name vs r.context log last.context := by
  induction vs generalizing cursor state r log with
  | nil =>
    obtain ⟨rfl, hcontext⟩ := h.of_yields_nil hd (.inl rfl) ht hl hy
    rw [hcontext]
    exact ⟨rfl, .done r.context⟩
  | cons v vs ih =>
    obtain ⟨rest, before, after, later, hrest, hcontext, rfl, hlater⟩ :=
      h.of_yields_cons hd (.inl rfl) ht hb hl hy
    obtain ⟨between, hsame, hv⟩ := hlater.visit_of_go hd ht' fun _ => rfl
    have hagain := hlater.of_restart ht' hv
    obtain ⟨hindices, hhanded⟩ := ih hagain (isLoop_loop name rest tag between) hrest
    rw [hsame] at hhanded
    refine ⟨?_, .next rfl hcontext hhanded⟩
    rw [List.map_cons, hindices, List.length_cons, List.replicate_succ]

/-- A loop with a second content evaluates that between one value and the next. -/
theorem Evaluates.of_separatedForEach (h : i.Evaluates ⟨state, 0⟩ r log last)
    (hd : i.directive = .standard .separatedForEach) (ht : i.tags[0]? = some tag)
    (ht' : i.tags[1]? = some tag') (ht'' : i.tags[2]? = some tag'') (hb : i.bodies[0]? = some body)
    (hb' : i.bodies[1]? = some body') (hl : IsLoop name cursor tag state r)
    (hy : cursor.Yields vs) :
    log.map Evaluated.index = (List.replicate vs.length 0).intersperse 1 ∧
      Handed name vs r.context log last.context := by
  induction vs generalizing cursor state r log with
  | nil =>
    obtain ⟨rfl, hcontext⟩ := h.of_yields_nil hd (.inr rfl) ht hl hy
    rw [hcontext]
    exact ⟨rfl, .done r.context⟩
  | cons v vs ih =>
    obtain ⟨rest, before, after, later, hrest, hcontext, rfl, hlater⟩ :=
      h.of_yields_cons hd (.inr rfl) ht hb hl hy
    cases vs with
    | nil =>
      obtain ⟨between, hsame, hv⟩ := hlater.visit_of_go hd ht' fun _ => by
        dsimp only [StandardDirective.execute]
        rw [hrest.2]
        rfl
      obtain ⟨rfl, rfl⟩ := hlater.of_terminate ht' hv
      refine ⟨rfl, .next rfl hcontext ?_⟩
      rw [hsame]
      exact .done after.context
    | cons v' vs =>
      have hmore : rest.hasNext = true := by
        obtain ⟨_, -, hmore, -⟩ := hrest
        exact hmore
      obtain ⟨between, hsame, hv⟩ := hlater.visit_of_go hd ht' fun _ => by
        dsimp only [StandardDirective.execute]
        rw [hmore]
        rfl
      obtain ⟨after', later', -, rfl, hlater'⟩ := hlater.of_evaluate ht' hv hb'
      obtain ⟨between', hsame', hv'⟩ := hlater'.visit_of_go hd ht'' fun _ => rfl
      have hagain := hlater'.of_restart ht'' hv'
      obtain ⟨hindices, hhanded⟩ := ih hagain (isLoop_loop name rest tag between') hrest
      rw [hsame'] at hhanded
      refine ⟨?_, .next rfl hcontext (.between Nat.one_ne_zero hsame hhanded)⟩
      rw [List.map_cons, List.map_cons, hindices]
      rfl

/-- A visit of the first tag of a repetition leads to the content while rounds are left. -/
theorem Evaluates.visit_repetition {left : Int} (h : i.Evaluates ⟨state, 0⟩ r log last)
    (hd : i.directive = .standard .repetition) (ht : i.tags[0]? = some tag)
    (hl : ∀ components host,
      (TagPart.values r.context tag.parts).on r.host = (.ok components, host) →
        StandardDirective.timesLeft components state = .ok (.countdown left)) :
    ∃ between, i.directive.visit 0 tag state r =
      if 0 < left then (.ok .evaluate, .countdown (left - 1), between)
      else (.ok .terminate, .countdown left, between) := by
  obtain ⟨components, host, flow, emit, state', between, hvalues, hv, he⟩ :=
    h.visit_standard hd ht
  have hrounds : StandardDirective.repeatOnce components state r.context =
      .ok (⟨flow, emit⟩, state', between.context) := he
  rw [StandardDirective.repeatOnce, hl components host hvalues] at hrounds
  dsimp only at hrounds
  refine ⟨between, ?_⟩
  split at hrounds
  · next hleft =>
    obtain ⟨rfl, rfl, -⟩ := StandardDirective.eq_of_go_eq_ok hrounds
    rw [if_pos hleft, hv]
  · next hleft =>
    obtain ⟨rfl, rfl, -⟩ := StandardDirective.eq_of_go_eq_ok hrounds
    rw [if_neg hleft, hv]

/-- A repetition that counts a number of rounds evaluates its content so often. -/
theorem Evaluates.of_repetition {left : Int} (h : i.Evaluates ⟨state, 0⟩ r log last)
    (hd : i.directive = .standard .repetition) (ht : i.tags[0]? = some tag)
    (ht' : i.tags[1]? = some tag') (hb : i.bodies[0]? = some body)
    (hl : ∀ components host,
      (TagPart.values r.context tag.parts).on r.host = (.ok components, host) →
        StandardDirective.timesLeft components state = .ok (.countdown left)) :
    log.map Evaluated.index = List.replicate left.toNat 0 := by
  induction hn : left.toNat generalizing left state r log with
  | zero =>
    obtain ⟨between, hv⟩ := h.visit_repetition hd ht hl
    rw [if_neg (by omega)] at hv
    obtain ⟨rfl, -⟩ := h.of_terminate ht hv
    rfl
  | succ n ih =>
    obtain ⟨before, hv⟩ := h.visit_repetition hd ht hl
    rw [if_pos (by omega)] at hv
    obtain ⟨after, later, -, rfl, hlater⟩ := h.of_evaluate ht hv hb
    obtain ⟨between, -, hv'⟩ := hlater.visit_of_go hd ht' fun _ => rfl
    have hagain := hlater.of_restart ht' hv'
    have hindices := ih hagain (fun _ _ _ => rfl) (by omega)
    rw [List.map_cons, hindices, List.replicate_succ]

end DirectiveInstance

section parts

variable {d : Dialect} {tag : LexedTag} {c : Context} {host after : Host} {components : List Value}

/-- The first tag of a loop has the components of a loop: a name and a source. -/
theorem LexedTag.Filled.components_of_loop (hf : tag.Filled d)
    (hs : StandardDirective.forEachIn.same d.nameCase tag.shape = true)
    (h : (TagPart.values c tag.parts).on host = (.ok components, after)) :
    ∃ name v, components = [.text name, v] := by
  have hparts := hf.parts_of_same hs
  generalize tag.parts = parts at h hparts
  obtain _ | ⟨⟨_⟩, _ | ⟨⟨_⟩, _ | ⟨⟨_⟩, _ | ⟨⟨_⟩, _ | ⟨⟨_⟩, _ | _⟩⟩⟩⟩⟩ := hparts
  simp only [TagPart.values, Eval.on_bind] at h
  generalize (Expr.eval c _).on host = evaluated at h
  obtain ⟨error | v, middle⟩ := evaluated
  · cases h
  · cases h
    exact ⟨_, v, rfl⟩

/-- The first tag of a repetition has one component, the count. -/
theorem LexedTag.Filled.components_of_repetition (hf : tag.Filled d)
    (hs : (⟨[.keyword "REPEAT", .expression, .keyword "TIMES"]⟩ : TagShape).same d.nameCase
      tag.shape = true)
    (h : (TagPart.values c tag.parts).on host = (.ok components, after)) :
    ∃ count, components = [count] := by
  have hparts := hf.parts_of_same hs
  generalize tag.parts = parts at h hparts
  obtain _ | ⟨⟨_⟩, _ | ⟨⟨_⟩, _ | ⟨⟨_⟩, _ | _⟩⟩⟩ := hparts
  simp only [TagPart.values, Eval.on_bind] at h
  generalize (Expr.eval c _).on host = evaluated at h
  obtain ⟨error | v, middle⟩ := evaluated
  · cases h
  · cases h
    exact ⟨v, rfl⟩

end parts

namespace DirectiveInstance

variable {draft : Dialect.Draft} {d : Dialect} {i : DirectiveInstance} {s : StandardDirective}
  {r last : Run} {log : List Evaluated}

/-- The values of the slots of an instance's first tag, when it is first activated. -/
def Begins (i : DirectiveInstance) (r : Run) (components : List Value) : Prop :=
  ∃ tag host, i.tags[0]? = some tag ∧
    (TagPart.values r.context tag.parts).on r.host = (.ok components, host)

/-- An instance has as many tags as its directive, each filled and of the shape of the tag in its
place, and a content after each but the last. -/
theorem tags_of_fits (hd : Dialect.ofDraft draft = .ok d)
    (hf : d.Fits i.directive i.position i.tags i.bodies) (ht : ∀ tag ∈ i.tags, tag.Filled d)
    (hs : i.directive = .standard s) :
    i.tags.length = s.shapes.length ∧
    (∀ (index : Nat) (shape : TagShape), s.shapes[index]? = some shape →
      ∃ tag, i.tags[index]? = some tag ∧ tag.Filled d ∧
        shape.same d.nameCase tag.shape = true) ∧
    ∀ index, index + 1 < s.shapes.length → ∃ body, i.bodies[index]? = some body := by
  have hm := Dialect.allSame_of_fits hd (hs ▸ hf)
  have htags : i.tags.length = s.shapes.length := by
    rw [← LexedTag.length_shapes, hm.length_eq]
  have hbodies : i.bodies.length + 1 = s.shapes.length := hf.separated.trans htags
  refine ⟨htags, fun index shape hshape => ?_, fun index hi => ?_⟩
  · obtain ⟨hi, rfl⟩ := List.getElem?_eq_some_iff.mp hshape
    have hi' : index < i.tags.length := htags ▸ hi
    have hsame := hm.get hi (by rwa [LexedTag.length_shapes])
    refine ⟨i.tags[index], List.getElem?_eq_getElem hi', ht _ (List.getElem_mem hi'), ?_⟩
    simpa [LexedTag.shapes] using hsame
  · have hi' : index < i.bodies.length := by omega
    exact ⟨i.bodies[index], List.getElem?_eq_getElem hi'⟩

/-- A loop begins with a name and a value. If the value is undefined, it ends at once; else it goes
through the elements of the value. -/
theorem Evaluates.begins_loop (h : i.Evaluates .first r log last) (hd : i.directive = .standard s)
    (hs : s = .forEach ∨ s = .separatedForEach) {tag : LexedTag} (ht : i.tags[0]? = some tag)
    (hf : tag.Filled d)
    (hsame : StandardDirective.forEachIn.same d.nameCase tag.shape = true) :
    ∃ name v, i.Begins r [.text name, v] ∧ (v.IsCountable →
      (v.elements = [] ∧ log = [] ∧ last.context = r.context) ∨
        ∃ cursor : Cursor Value, IsLoop name cursor tag .initial r ∧ cursor.Yields v.elements) := by
  obtain ⟨components, host, flow, emit, state', between, hvalues, hv, hitem⟩ :=
    Evaluates.visit_loop h hd hs ht
  obtain ⟨name, v, rfl⟩ := hf.components_of_loop hsame hvalues
  refine ⟨name, v, ⟨tag, host, ht, hvalues⟩, fun hcountable => ?_⟩
  cases hsequence : v.toSequence? with
  | none =>
    left
    have hundefined : v = .undefined := by
      cases v with
      | undefined => rfl
      | bool | number | text | sequence | object => cases hsequence
    subst hundefined
    obtain ⟨rfl, -, hcontext⟩ := StandardDirective.eq_of_go_eq_ok
      (show StandardDirective.go .terminate .initial r.context = _ from hitem)
    obtain ⟨rfl, rfl⟩ := Evaluates.of_terminate h ht hv
    exact ⟨rfl, rfl, hcontext⟩
  | some items =>
    right
    refine ⟨.start items, fun components' host' hvalues' => ?_,
      Cursor.yields_start hsequence hcountable⟩
    cases hvalues.symm.trans hvalues'
    have hloop : StandardDirective.loopOf [.text name, v] .initial =
        .ok (v.toSequence?.map fun items => (name, .start items)) := rfl
    rw [hloop, hsequence]
    rfl

/-- A loop with one content evaluates it once for each element of the first value. -/
theorem Evaluates.forEach_of_fits (h : i.Evaluates .first r log last)
    (hd : Dialect.ofDraft draft = .ok d)
    (hf : d.Fits i.directive i.position i.tags i.bodies) (ht : ∀ tag ∈ i.tags, tag.Filled d)
    (hs : i.directive = .standard .forEach) :
    ∃ name v, i.Begins r [.text name, v] ∧ (v.IsCountable →
      log.map Evaluated.index = List.replicate v.elements.length 0 ∧
        Handed name v.elements r.context log last.context) := by
  obtain ⟨-, htags, hbodies⟩ := tags_of_fits hd hf ht hs
  obtain ⟨tag, htag, hfilled, hsame⟩ := htags 0 _ rfl
  obtain ⟨tag', htag', -⟩ := htags 1 _ rfl
  obtain ⟨body, hbody⟩ := hbodies 0 (by decide)
  obtain ⟨name, v, hbegins, hloop⟩ := h.begins_loop hs (.inl rfl) htag hfilled hsame
  refine ⟨name, v, hbegins, fun hcountable => ?_⟩
  obtain ⟨helements, rfl, hcontext⟩ | ⟨cursor, hl, hy⟩ := hloop hcountable
  · rw [helements, hcontext]
    exact ⟨rfl, .done r.context⟩
  · exact Evaluates.of_forEach h hs htag htag' hbody hl hy

/-- A loop with a second content evaluates the first once for each element of the first value, and
the second in between. -/
theorem Evaluates.separatedForEach_of_fits (h : i.Evaluates .first r log last)
    (hd : Dialect.ofDraft draft = .ok d)
    (hf : d.Fits i.directive i.position i.tags i.bodies) (ht : ∀ tag ∈ i.tags, tag.Filled d)
    (hs : i.directive = .standard .separatedForEach) :
    ∃ name v, i.Begins r [.text name, v] ∧ (v.IsCountable →
      log.map Evaluated.index = (List.replicate v.elements.length 0).intersperse 1 ∧
        Handed name v.elements r.context log last.context) := by
  obtain ⟨-, htags, hbodies⟩ := tags_of_fits hd hf ht hs
  obtain ⟨tag, htag, hfilled, hsame⟩ := htags 0 _ rfl
  obtain ⟨tag', htag', -⟩ := htags 1 _ rfl
  obtain ⟨tag'', htag'', -⟩ := htags 2 _ rfl
  obtain ⟨body, hbody⟩ := hbodies 0 (by decide)
  obtain ⟨body', hbody'⟩ := hbodies 1 (by decide)
  obtain ⟨name, v, hbegins, hloop⟩ := h.begins_loop hs (.inr rfl) htag hfilled hsame
  refine ⟨name, v, hbegins, fun hcountable => ?_⟩
  obtain ⟨helements, rfl, hcontext⟩ | ⟨cursor, hl, hy⟩ := hloop hcountable
  · rw [helements, hcontext]
    exact ⟨rfl, .done r.context⟩
  · exact Evaluates.of_separatedForEach h hs htag htag' htag'' hbody hbody' hl hy

/-- A repetition evaluates its content as often as its first count says. -/
theorem Evaluates.repetition_of_fits (h : i.Evaluates .first r log last)
    (hd : Dialect.ofDraft draft = .ok d)
    (hf : d.Fits i.directive i.position i.tags i.bodies) (ht : ∀ tag ∈ i.tags, tag.Filled d)
    (hs : i.directive = .standard .repetition) :
    ∃ count, i.Begins r [count] ∧
      log.map Evaluated.index = List.replicate count.toInt32.toInt.toNat 0 := by
  obtain ⟨-, htags, hbodies⟩ := tags_of_fits hd hf ht hs
  obtain ⟨tag, htag, hfilled, hsame⟩ := htags 0 _ rfl
  obtain ⟨tag', htag', -⟩ := htags 1 _ rfl
  obtain ⟨body, hbody⟩ := hbodies 0 (by decide)
  obtain ⟨components, host, -, -, -, -, hvalues, -⟩ := Evaluates.visit_standard h hs htag
  obtain ⟨count, rfl⟩ := hfilled.components_of_repetition hsame hvalues
  refine ⟨count, ⟨tag, host, htag, hvalues⟩, ?_⟩
  refine Evaluates.of_repetition h hs htag htag' hbody fun components host' hvalues' => ?_
  cases hvalues.symm.trans hvalues'
  rfl

end DirectiveInstance

namespace Template

/-- **Loops go through the first value of their source.** The contents of a directive with several
tags are evaluated in a frame of its own, which is closed at the end; nothing stops this if every
moment succeeds. A loop evaluates its first content once for each element of the value that its
source has first, in order, with the variable bound to the element, and each content finds the frame
as the one before left it; a second content is evaluated between one element and the next. A
repetition evaluates its content as often as its first count says. -/
theorem loops_of_compile {draft : Dialect.Draft} {d : Dialect} (hd : Dialect.ofDraft draft = .ok d)
    {source : String} {t : Template} (ht : compile d source = .ok t) {i : DirectiveInstance}
    (hi : i.node.Occurs t.forest) {s : StandardDirective} (hs : i.directive = .standard s)
    (hl : s = .forEach ∨ s = .separatedForEach ∨ s = .repetition) {r last : Run}
    {trace : List Moment} {result : Except EvalError Unit}
    (hc : Course (.tags i .initial 0) r.openFrame trace result last) :
    ((∀ m ∈ trace, m.Succeeds) → result = .ok ()) ∧
    (result = .ok () → i.node.render r = (.ok (), last.closeFrame) ∧
      ∃ log, i.Evaluates .first r.openFrame log last) ∧
    ∀ log last', i.Evaluates .first r.openFrame log last' →
      (s = .forEach → ∃ name v, i.Begins r.openFrame [.text name, v] ∧ (v.IsCountable →
        log.map Evaluated.index = List.replicate v.elements.length 0 ∧
        Handed name v.elements r.context.openFrame log last'.context)) ∧
      (s = .separatedForEach → ∃ name v, i.Begins r.openFrame [.text name, v] ∧ (v.IsCountable →
        log.map Evaluated.index = (List.replicate v.elements.length 0).intersperse 1 ∧
        Handed name v.elements r.context.openFrame log last'.context)) ∧
      (s = .repetition → ∃ count, i.Begins r.openFrame [count] ∧
        log.map Evaluated.index = List.replicate count.toInt32.toInt.toNat 0) := by
  obtain ⟨hfits, hfilled⟩ := (everywhere_of_compile ht).of_occurs hi
  refine ⟨hc.ok_of_succeeds, fun hresult => ⟨?_, hc.exists_evaluates hresult⟩,
    fun log last' h => ⟨?_, ?_, ?_⟩⟩
  · have hmany : 1 < i.tags.length := by
      rw [(DirectiveInstance.tags_of_fits hd hfits hfilled hs).1]
      obtain rfl | rfl | rfl := hl <;> decide
    have hrender := Stretch.render_node i r
    rw [Run.enter, if_pos hmany, hc.render_eq, hresult, Run.leave, if_pos hmany] at hrender
    exact hrender
  · rintro rfl
    exact h.forEach_of_fits hd hfits hfilled hs
  · rintro rfl
    exact h.separatedForEach_of_fits hd hfits hfilled hs
  · rintro rfl
    exact h.repetition_of_fits hd hfits hfilled hs

/-- A loop over two texts whose first content overwrites the variable, with an empty content in
between. -/
def isLoopOverPair : Forest → Bool
  | [.directive (.standard .separatedForEach) 0
      [⟨_, [.keyword "FOR", .keyword "EACH", .name "x", .keyword "IN",
          .expression (.list [.literal (.text "a"), .literal (.text "b")])], _⟩,
        ⟨_, [.keyword "WITH"], _⟩, ⟨_, [.keyword "END"], _⟩]
      [[.directive (.standard .assignment) _
        [⟨_, [.keyword "SET", .name "x", .keyword "TO", .expression (.literal (.text "c"))], _⟩]
        []], []]] => true
  | _ => false

/-- The law at a loop over two texts: its first content overwrites the variable and is evaluated
twice nevertheless, with the second content once in between. -/
theorem loops_of_compile_overwriting :
    ∃ d t, Dialect.standard = .ok d ∧
      compile d "\x7bFOR EACH x IN ['a', 'b']\x7d\x7bSET x TO 'c'\x7d\x7bWITH\x7d\x7bEND\x7d" =
        .ok t ∧
      ∃ (i : DirectiveInstance) (last : Run) (log : List Evaluated),
        let r : Run := ⟨.new d 0, .fresh, .unlimited⟩
        t.forest = [i.node] ∧ i.node.render r = (.ok (), last.closeFrame) ∧
          i.Evaluates .first r.openFrame log last ∧ log.map Evaluated.index = [0, 1, 0] ∧
          Handed "x" [.text "a", .text "b"] r.context.openFrame log last.context := by
  have hcheck : (Dialect.standard.toOption.any fun d => (compile d
      "\x7bFOR EACH x IN ['a', 'b']\x7d\x7bSET x TO 'c'\x7d\x7bWITH\x7d\x7bEND\x7d").toOption.any
        fun t => isLoopOverPair t.forest) = true := by decide +kernel
  obtain ⟨d, t, hd, ht, hshape⟩ := exists_compile hcheck
  refine ⟨d, t, hd, ht, ?_⟩
  unfold isLoopOverPair at hshape
  split at hshape
  · next shape place shape' place' shape'' place'' position assigned assignedPlace hf =>
    let r : Run := ⟨.new d 0, .fresh, .unlimited⟩
    let set : DirectiveInstance := ⟨.standard .assignment, position,
      [⟨assigned, [.keyword "SET", .name "x", .keyword "TO", .expression (.literal (.text "c"))],
        assignedPlace⟩], []⟩
    let i : DirectiveInstance := ⟨.standard .separatedForEach, 0,
      [⟨shape, [.keyword "FOR", .keyword "EACH", .name "x", .keyword "IN",
          .expression (.list [.literal (.text "a"), .literal (.text "b")])], place⟩,
        ⟨shape', [.keyword "WITH"], place'⟩, ⟨shape'', [.keyword "END"], place''⟩],
      [[set.node], []]⟩
    have hforest : t.forest = [i.node] := hf
    have hset : ∀ r : Run, r.isCancelled = false → ∃ trace,
        Course (.nodes [set.node]) r trace (.ok ())
          { r with context := r.context.setVariable "x" (.text "c") } := by
      intro r hc
      let r' : Run := { r with context := r.context.setVariable "x" (.text "c") }
      have hinside : Course (.tags set .initial 0) (r.enter set.tags) _ (.ok ()) r' :=
        .ended rfl (.of_silent hc rfl)
      have hnode : Course (.node set.node) r _ (.ok ()) r' := .directive hinside
      exact ⟨_, .next hnode (.done r')⟩
    have hcourse : ∃ trace last, Course (.tags i .initial 0) r.openFrame trace (.ok ()) last := by
      obtain ⟨trace, hbody⟩ := hset
        { r.openFrame with context := r.openFrame.context.setVariable "x" (.text "a") } rfl
      obtain ⟨trace', hbody'⟩ := hset
        { r.openFrame with
          context := ((r.openFrame.context.setVariable "x" (.text "a")).setVariable "x"
            (.text "c")).setVariable "x" (.text "b") } rfl
      exact ⟨_, _, .entered rfl (.of_silent rfl rfl) rfl hbody
        (.entered rfl (.of_silent rfl rfl) rfl (.done _)
          (.restarted rfl (.of_silent rfl rfl)
            (.entered rfl (.of_silent rfl rfl) rfl hbody'
              (.ended rfl (.of_silent rfl rfl)))))⟩
    obtain ⟨trace, last, hc⟩ := hcourse
    have hdraft : Dialect.ofDraft (.ofSettings "standard"
        [.standardOperators, .standardDirectives]) = .ok d := hd
    have hi : i.node.Occurs t.forest := hforest ▸ .root List.mem_cons_self
    obtain ⟨-, hok, hlogs⟩ := loops_of_compile hdraft ht hi rfl (.inr (.inl rfl)) hc
    obtain ⟨hrender, log, hlog⟩ := hok rfl
    obtain ⟨name, v, ⟨tag, host, htag, hvalues⟩, hloop⟩ := (hlogs log last hlog).2.1 rfl
    cases htag
    cases hvalues
    obtain ⟨hindices, hhanded⟩ := hloop trivial
    exact ⟨i, last, log, hforest, hrender, hlog, hindices, hhanded⟩
  · cases hshape

end Template

end TagTemplate
