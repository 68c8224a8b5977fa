import TagTemplate.Proofs.Rendering.Loops
import TagTemplate.Proofs.Rendering.Situation

/-!
# Blanks

Where a dialect collapses blanks, the renderer decides at each text by a mark on the top frame. Over
the standard directives the mark stands for the place of the text in the template: every directive
with several tags has a frame of its own, and only the directive for text kept as it is marks its
frame, before its content. So a text is kept as it is exactly if the innermost directive with several
tags around it is that one, or, outside of all of them, if the first frame was marked. Blanks that
an expression gives are never collapsed.
-/

namespace TagTemplate

namespace Text

/-- The second text is the first one with a space in the place of every run of blanks; a run is as
long as it can be. -/
inductive Collapsed : List Char → List Char → Prop
  /-- Nothing is left. -/
  | nil : Collapsed [] []
  /-- A character that is not blank stays. -/
  | kept {c : Char} {cs shown : List Char} (hc : isBlank c = false) (h : Collapsed cs shown) :
    Collapsed (c :: cs) (c :: shown)
  /-- A run ends at the end of the text or before a character that is not blank. -/
  | run {blanks rest shown : List Char} (hne : blanks ≠ []) (hb : ∀ c ∈ blanks, isBlank c = true)
    (hr : ∀ c ∈ rest.head?, isBlank c = false) (h : Collapsed rest shown) :
    Collapsed (blanks ++ rest) (' ' :: shown)

/-- A blank before a blank makes no difference. -/
theorem Collapsed.cons {c d : Char} {cs shown : List Char} (hc : isBlank c = true)
    (hd : isBlank d = true) (h : Collapsed (d :: cs) shown) : Collapsed (c :: d :: cs) shown := by
  generalize hds : d :: cs = ds at h
  cases h with
  | nil => cases hds
  | kept hk _ =>
    cases hds
    rw [hd] at hk
    cases hk
  | @run blanks rest shown hne hb hr h =>
    exact .run (List.cons_ne_nil c blanks) (List.forall_mem_cons.mpr ⟨hc, hb⟩) hr h

/-- A run of one blank becomes one space. -/
theorem Collapsed.single {c : Char} {cs shown : List Char} (hc : isBlank c = true)
    (hr : ∀ d ∈ cs.head?, isBlank d = false) (h : Collapsed cs shown) :
    Collapsed (c :: cs) (' ' :: shown) :=
  @Collapsed.run [c] cs shown (List.cons_ne_nil c []) (List.forall_mem_singleton.mpr hc) hr h

/-- The characters of a text with its blanks collapsed. -/
theorem collapsed_collapseRuns (cs : List Char) : Collapsed cs (collapseRuns cs) := by
  induction cs with
  | nil => exact .nil
  | cons c cs ih =>
    unfold collapseRuns
    split
    · next hc =>
      cases cs with
      | nil => exact .single hc nofun .nil
      | cons d cs =>
        dsimp only
        split
        · next hd => exact ih.cons hc hd
        · next hd =>
          have hd : isBlank d = false := eq_false_of_ne_true hd
          exact .single hc (by simpa using hd) ih
    · next hc => exact .kept (eq_false_of_ne_true hc) ih

/-- A run of blanks becomes one space. -/
theorem collapseRuns_append {blanks rest : List Char} (hne : blanks ≠ [])
    (hb : ∀ c ∈ blanks, isBlank c = true) (hr : ∀ c ∈ rest.head?, isBlank c = false) :
    collapseRuns (blanks ++ rest) = ' ' :: collapseRuns rest := by
  induction blanks with
  | nil => exact absurd rfl hne
  | cons c blanks ih =>
    obtain ⟨hc, hb⟩ := List.forall_mem_cons.mp hb
    cases blanks with
    | nil =>
      cases rest with
      | nil => simp [collapseRuns, hc]
      | cons d rest =>
        have hd : isBlank d = false := hr d rfl
        simp [collapseRuns, hc, hd]
    | cons d blanks =>
      have hd : isBlank d = true := hb d List.mem_cons_self
      have hrest := ih (List.cons_ne_nil d blanks) hb
      rw [← hrest]
      simp [collapseRuns, hc, hd]

/-- There is only one way to collapse the blanks of a text. -/
theorem collapsed_iff {cs shown : List Char} : Collapsed cs shown ↔ shown = collapseRuns cs := by
  constructor
  · intro h
    induction h with
    | nil => rfl
    | kept hc _ ih => simp [collapseRuns, hc, ih]
    | run hne hb hr _ ih => rw [collapseRuns_append hne hb hr, ih]
  · intro h
    rw [h]
    exact collapsed_collapseRuns cs

end Text

/-- In a marked frame a text is shown as it is. -/
theorem Run.shown_of_marked {r : Run} (h : r.context.hasMark preformattedMark = true) (s : String) :
    r.shown s = s := by
  rw [shown, h, Bool.not_true, Bool.and_false]
  rfl

/-- In a frame without the mark its blanks are collapsed, if the dialect says so. -/
theorem Run.collapsed_shown {r : Run} (hc : r.context.dialect.collapsesBlanks = true)
    (hm : r.context.hasMark preformattedMark = false) (s : String) :
    Text.Collapsed s.toList (r.shown s).toList := by
  have hs : r.shown s = Text.collapseBlanks s := by
    rw [shown, hc, hm]
    rfl
  rw [hs, Text.collapseBlanks, String.toList_ofList]
  exact Text.collapsed_collapseRuns s.toList

namespace Context

/-- A mark that was put is there. -/
theorem hasMark_addMark (c : Context) (mark : String) : (c.addMark mark).hasMark mark = true := by
  unfold addMark hasMark Frame.addMark
  dsimp only
  split
  · next h => exact h
  · simp [Frame.hasMark]

/-- A new frame has no marks. -/
theorem hasMark_openFrame (c : Context) (mark : String) : c.openFrame.hasMark mark = false := rfl

theorem SameExcept.hasMark_eq {keys : List String} {c c' : Context} (h : SameExcept keys c c')
    (mark : String) : c'.hasMark mark = c.hasMark mark := by
  rw [hasMark, hasMark, Frame.hasMark, Frame.hasMark, h.marks]

end Context

/-- A visit changes at most the top frame. -/
theorem Directive.sameBelow_of_visit {d : Directive} {index : Nat} {tag : LexedTag}
    {state state' : DirectiveState} {r last : Run} {result : Except EvalError Flow}
    (hv : d.visit index tag state r = (result, state', last)) :
    r.context.SameBelow last.context := by
  have hlast : (d.visit index tag state r).2.2 = last := congrArg (fun v => v.2.2) hv
  rw [← hlast]
  rcases d.context_visit index tag state r with h | h
  · rw [h]
    exact .refl _
  · rw [h]
    exact sameBelow_activate d index tag state r

namespace StandardDirective

variable {s : StandardDirective} {index : Nat} {tag : LexedTag} {components : List Value}
  {state state' : DirectiveState} {c c' : Context} {r between : Run} {flow : Flow}

/-- Only the directive for text kept as it is marks a frame. -/
theorem Changes.hasMark_eq (h : Changes components c s c') (hs : s ≠ .preformatted)
    (mark : String) : c'.hasMark mark = c.hasMark mark := by
  cases h with
  | unchanged | forEach | separatedForEach | assignment => rfl
  | preformatted => exact absurd rfl hs

/-- The directive for text kept as it is marks its frame before its content. -/
theorem context_of_preformatted {emit : Option String}
    (h : execute .preformatted index components state c = .ok (⟨flow, emit⟩, state', c')) :
    flow = .terminate ∨ flow = .evaluate ∧ c' = c.addMark preformattedMark := by
  match index with
  | 0 =>
    obtain ⟨rfl, -, rfl⟩ := eq_of_go_eq_ok h
    exact .inr ⟨rfl, rfl⟩
  | 1 => exact .inl (eq_of_go_eq_ok h).1
  | _ + 2 => cases h

/-- After a visit that does not end the directive the frame is marked exactly if the directive is
the one for text kept as it is, if that was so before, but for its first tag. -/
theorem hasMark_of_visit
    (hv : (Directive.standard s).visit index tag state r = (.ok flow, state', between))
    (hm : r.context.hasMark preformattedMark = true → s = .preformatted)
    (hf : flow ≠ .terminate) :
    (s = .preformatted → flow = .evaluate) ∧
      (between.context.hasMark preformattedMark = true ↔ s = .preformatted) := by
  obtain ⟨components, host, emit, -, he⟩ := exists_execute_of_visit hv
  by_cases hs : s = .preformatted
  · subst hs
    obtain hterminate | ⟨hevaluate, hcontext⟩ := context_of_preformatted he
    · exact absurd hterminate hf
    · rw [hcontext, Context.hasMark_addMark]
      exact ⟨fun _ => hevaluate, iff_of_true rfl rfl⟩
  · have hmark := (changes_of_execute he).hasMark_eq hs preformattedMark
    rw [hmark]
    exact ⟨fun h => absurd h hs, hm, fun h => absurd h hs⟩

end StandardDirective

namespace Scope

/-- Whether text is kept as it is in a scope, where it is kept outside of all directives or not. -/
def Keeps (outside : Bool) : Scope → Prop
  | none => outside = true
  | some i => i.directive = .standard .preformatted

/-- Whether a node of a forest stands in a scope: outside of all directives with several tags, or
right in a content of such a directive that occurs in the forest. -/
def Holds (root : Forest) (node : Node) : Scope → Prop
  | none => node ∈ root
  | some i => i.node.Occurs root ∧ 1 < i.tags.length ∧ ∃ body ∈ i.bodies, node ∈ body

end Scope

/-- What occurs in a content of a directive in a forest occurs in the forest. -/
theorem Node.Occurs.of_body {i : DirectiveInstance} {root body : Forest} (hi : i.node.Occurs root)
    (hb : body ∈ i.bodies) {node : Node} (hn : node ∈ body) : node.Occurs root := by
  induction hi with
  | root hm => exact .inside hm hb (.root hn)
  | inside hm hj _ ih => exact .inside hm hj ih

/-- A node that stands in a scope of a forest occurs in the forest. -/
theorem Scope.Holds.occurs {root : Forest} {node : Node} {scope : Scope}
    (h : scope.Holds root node) : node.Occurs root := by
  cases scope with
  | none => exact .root h
  | some i =>
    obtain ⟨hi, -, body, hb, hn⟩ := h
    exact hi.of_body hb hn

/-- A node in which every directive is a standard one that is as the dialect requires. -/
structure Node.Regular (d : Dialect) (node : Node) : Prop where
  /-- Every directive is a standard one. -/
  standard : node.Everywhere fun directive _ _ _ => directive ∈ Directive.allStandard
  /-- Every directive is as the dialect requires, and every tag is filled. -/
  fits : node.Everywhere fun directive position tags bodies =>
    d.Fits directive position tags bodies ∧ ∀ tag ∈ tags, tag.Filled d

section regular

variable {d : Dialect} {i : DirectiveInstance}

/-- What is in a content of a directive is as the dialect requires if the directive is. -/
theorem Node.Regular.of_body (h : i.node.Regular d) {body : Forest} (hb : body ∈ i.bodies)
    {node : Node} (hn : node ∈ body) : node.Regular d := by
  obtain ⟨hs, hf⟩ := h
  cases hs with
  | directive _ hs => cases hf with
    | directive _ hf => exact ⟨hs body hb node hn, hf body hb node hn⟩

/-- Its directive is a standard one. -/
theorem Node.Regular.exists_standard (h : i.node.Regular d) :
    ∃ s : StandardDirective, i.directive = .standard s := by
  cases h.standard with
  | directive hs _ =>
    obtain ⟨s, -, hs⟩ := List.mem_map.mp hs
    exact ⟨s, hs.symm⟩

/-- A directive with a content has several tags. -/
theorem Node.Regular.one_lt_length (h : i.node.Regular d) {body : Forest}
    (hb : body ∈ i.bodies) : 1 < i.tags.length := by
  cases h.fits with
  | directive hf _ =>
    have hl : i.bodies.length + 1 = i.tags.length := hf.1.separated
    have hpos := List.length_pos_of_mem hb
    omega

end regular

/-- What holds of a situation in the rendering of a forest: where blanks are collapsed, and the top
frame is marked as the scope says. Between its tags a directive with several of them has marked its
frame exactly if it is the one for text kept as it is. -/
inductive Situation.Marked (d : Dialect) (root : Forest) (outside : Bool) : Situation → Prop
  /-- Before a node. -/
  | node {scope : Scope} {node : Node} {r : Run} (hr : node.Regular d)
    (hh : scope.Holds root node) (hc : r.context.dialect.collapsesBlanks = true)
    (hm : r.context.hasMark preformattedMark = true ↔ scope.Keeps outside) :
    Marked d root outside ⟨scope, .node node, r⟩
  /-- Before nodes in turn. -/
  | nodes {scope : Scope} {forest : Forest} {r : Run} (hr : ∀ node ∈ forest, node.Regular d)
    (hh : ∀ node ∈ forest, scope.Holds root node)
    (hc : r.context.dialect.collapsesBlanks = true)
    (hm : r.context.hasMark preformattedMark = true ↔ scope.Keeps outside) :
    Marked d root outside ⟨scope, .nodes forest, r⟩
  /-- Before a tag. -/
  | tags {scope : Scope} {i : DirectiveInstance} {state : DirectiveState} {index : Nat} {r : Run}
    (hr : i.node.Regular d) (ho : i.node.Occurs root)
    (hc : r.context.dialect.collapsesBlanks = true)
    (hm : 1 < i.tags.length → scope = some i ∧
      (r.context.hasMark preformattedMark = true ↔
        i.directive = .standard .preformatted ∧ index ≠ 0)) :
    Marked d root outside ⟨scope, .tags i state index, r⟩

namespace Situation

variable {draft : Dialect.Draft} {d : Dialect} {root : Forest} {outside : Bool}
  {start next : Situation}

/-- A visit that does not end the directive leaves the dialect as it is and the frame marked as the
directive says. -/
theorem marked_of_visit {i : DirectiveInstance} {index : Nat} {tag : LexedTag}
    {state state' : DirectiveState} {r between : Run} {flow : Flow} (hr : i.node.Regular d)
    (hm : r.context.hasMark preformattedMark = true ↔
      i.directive = .standard .preformatted ∧ index ≠ 0)
    (hv : i.directive.visit index tag state r = (.ok flow, state', between))
    (hf : flow ≠ .terminate) :
    (i.directive = .standard .preformatted → flow = .evaluate) ∧
      (between.context.hasMark preformattedMark = true ↔
        i.directive = .standard .preformatted) := by
  obtain ⟨s, hs⟩ := hr.exists_standard
  rw [hs] at hv hm ⊢
  rw [Directive.standard.injEq] at hm ⊢
  exact StandardDirective.hasMark_of_visit hv (fun h => (hm.mp h).1) hf

/-- A situation hands on to those that it begins how blanks are treated. -/
theorem Marked.begins (hd : Dialect.ofDraft draft = .ok d) (h : start.Marked d root outside)
    (hb : start.Begins next) : next.Marked d root outside := by
  cases hb with
  | first scope node rest r => cases h with
    | nodes hr hh hc hm => exact .node (hr node List.mem_cons_self) (hh node List.mem_cons_self) hc hm
  | @rest scope node rest r between hrender => cases h with
    | nodes hr hh hc hm =>
      have hfirst := hr node List.mem_cons_self
      have hsame := Node.sameExcept_render hd hfirst.standard hfirst.fits r
      rw [hrender] at hsame
      refine .nodes (fun n hn => hr n (List.mem_cons_of_mem node hn))
        (fun n hn => hh n (List.mem_cons_of_mem node hn)) ?_ ?_
      · rw [hsame.below.dialect]
        exact hc
      · rw [hsame.hasMark_eq]
        exact hm
  | directive scope i r => cases h with
    | node hr hh hc hm =>
      have hc' : (r.enter i.tags).context.dialect.collapsesBlanks = true := by
        unfold Run.enter
        split <;> exact hc
      refine .tags hr hh.occurs hc' fun ht => ⟨if_pos ht, ?_⟩
      rw [Run.enter, if_pos ht]
      exact iff_of_false (by simp [Run.openFrame, Context.hasMark_openFrame]) fun h => h.2 rfl
  | @restarted scope i index tag state state' r between ht hv => cases h with
    | tags hr ho hc hm =>
      have hdialect := (Directive.sameBelow_of_visit hv).dialect
      refine .tags hr ho (hdialect ▸ hc) fun hl => ⟨(hm hl).1, ?_⟩
      obtain ⟨hevaluate, hmark⟩ := marked_of_visit hr (hm hl).2 hv (by decide)
      exact hmark.trans ⟨fun h => absurd (hevaluate h) (by decide), fun h => absurd rfl h.2⟩
  | @skipped scope i index tag state state' r between ht hv => cases h with
    | tags hr ho hc hm =>
      have hdialect := (Directive.sameBelow_of_visit hv).dialect
      refine .tags hr ho (hdialect ▸ hc) fun hl => ⟨(hm hl).1, ?_⟩
      obtain ⟨-, hmark⟩ := marked_of_visit hr (hm hl).2 hv (by decide)
      exact hmark.trans ⟨fun h => ⟨h, Nat.succ_ne_zero index⟩, fun h => h.1⟩
  | @content scope i index tag body state state' r between ht hv hbody => cases h with
    | tags hr ho hc hm =>
      have hdialect := (Directive.sameBelow_of_visit hv).dialect
      have hmem := List.mem_of_getElem? hbody
      have hl := hr.one_lt_length hmem
      obtain ⟨rfl, hmark⟩ := hm hl
      exact .nodes (fun n hn => hr.of_body hmem hn) (fun n hn => ⟨ho, hl, body, hmem, hn⟩)
        (hdialect ▸ hc) (marked_of_visit hr hmark hv (by decide)).2
  | @passed scope i index tag body state state' r between between' ht hv hbody hrender => cases h with
    | tags hr ho hc hm =>
      have hdialect := (Directive.sameBelow_of_visit hv).dialect
      have hmem := List.mem_of_getElem? hbody
      have hsame := Forest.sameExcept_render hd (fun n hn => (hr.of_body hmem hn).standard)
        (fun n hn => (hr.of_body hmem hn).fits) between
      rw [hrender] at hsame
      refine .tags hr ho ?_ fun hl => ⟨(hm hl).1, ?_⟩
      · rw [hsame.below.dialect, hdialect]
        exact hc
      · rw [hsame.hasMark_eq]
        obtain ⟨-, hmark⟩ := marked_of_visit hr (hm hl).2 hv (by decide)
        exact hmark.trans ⟨fun h => ⟨h, Nat.succ_ne_zero index⟩, fun h => h.1⟩

/-- How blanks are treated holds of all situations that are reached. -/
theorem Marked.reaches (hd : Dialect.ofDraft draft = .ok d) (h : start.Marked d root outside)
    (hreach : start.Reaches next) : next.Marked d root outside := by
  induction hreach with
  | refl => exact h
  | tail _ hb ih => exact ih.begins hd hb

end Situation

namespace Template

/-- Where blanks are collapsed, the evaluation of a template over the standard directives shows every
text as the place of the text says. Every text that is handed to the output is what is shown of a
text node that was just begun, or exactly the text of a tag that was just activated. A text node
is begun in the scope in which it stands in the template, and what is shown of it is written. It is
shown as it is if the innermost directive with several tags around it is the one for text kept as it
is, or if there is none and the top frame was marked at the start; else every run of blanks in it is
shown as one space. -/
theorem blanks_of_evaluate {draft : Dialect.Draft} {d : Dialect}
    (hd : Dialect.ofDraft draft = .ok d) {source : String} {t : Template}
    (ht : compile d source = .ok t)
    (hs : t.forest.Everywhere fun directive _ _ _ => directive ∈ Directive.allStandard) {r : Run}
    (hc : r.context.dialect.collapsesBlanks = true) :
    let start : Situation := ⟨none, .nodes t.forest, r⟩
    let outside := r.context.hasMark preformattedMark
    (∃ trace result last, Course (.nodes t.forest) r trace result last) ∧
      (∀ trace result last, Course (.nodes t.forest) r trace result last →
        t.evaluate r = (result.mapError .ofEval, last) ∧ start.HandsAll trace) ∧
      ∀ scope text position r', start.Reaches ⟨scope, .node (.text text position), r'⟩ →
        scope.Holds t.forest (.text text position) ∧
        (Node.text text position).render r' = Run.put (r'.shown text) r' ∧
        (scope.Keeps outside → r'.shown text = text) ∧
        (¬scope.Keeps outside → Text.Collapsed text.toList (r'.shown text).toList) := by
  dsimp only
  refine ⟨t.exists_course r, fun trace result last h => ⟨evaluate_eq_of_course h, h.handsAll none⟩,
    fun scope text position r' hreach => ?_⟩
  have hf := everywhere_of_compile ht
  have hstart : Situation.Marked d t.forest (r.context.hasMark preformattedMark)
      ⟨none, .nodes t.forest, r⟩ :=
    .nodes (fun node hn => ⟨hs node hn, hf node hn⟩) (fun node hn => hn) hc Iff.rfl
  cases hstart.reaches hd hreach with
  | node _ hh hc' hm =>
    refine ⟨hh, Run.putText_eq text r', fun hk => Run.shown_of_marked (hm.mpr hk) text,
      fun hk => ?_⟩
    exact Run.collapsed_shown hc' (eq_false_of_ne_true fun h => hk (hm.mp h)) text

/-- Whether a forest keeps a text as it is, and a condition after it with another text. -/
def isKeptAndConditional : Forest → Bool
  | [.directive (.standard .preformatted) 0 [⟨_, [.keyword _], _⟩, _]
      [[.text "c  d" 14, .directive (.standard .conditional) 18
        [⟨_, [.keyword _, .expression (.literal (.text "x")), .keyword _], _⟩, _]
        [[.text "a  b" 31]]]]] => true
  | _ => false

set_option maxRecDepth 1000 in
/-- The law at a text that is kept as it is, and at one in a condition right after it, which is
not. -/
theorem blanks_of_evaluate_nested :
    let source := "\x7bPREFORMATTED\x7dc  d\x7bIF \"x\" THEN\x7da  b\x7bEND\x7d\x7bEND\x7d"
    ∃ d t, Dialect.ofSettings "flowing" [.collapse true, .standardOperators, .standardDirectives] =
        .ok d ∧ compile d source = .ok t ∧
      let start : Situation := ⟨none, .nodes t.forest, ⟨.new d 0, .fresh, .unlimited⟩⟩
      (∃ scope r, start.Reaches ⟨scope, .node (.text "c  d" 14), r⟩ ∧ r.shown "c  d" = "c  d") ∧
        ∃ scope r, start.Reaches ⟨scope, .node (.text "a  b" 31), r⟩ ∧
          Text.Collapsed "a  b".toList (r.shown "a  b").toList := by
  intro source
  have hcheck : ((Dialect.ofSettings "flowing"
      [.collapse true, .standardOperators, .standardDirectives]).toOption.any fun d =>
      d.collapsesBlanks && (compile d source).toOption.any fun t =>
        isKeptAndConditional t.forest) = true := by decide +kernel
  obtain ⟨d, hd, hcheck⟩ := exists_ok_of_any hcheck
  obtain ⟨hc, hcheck⟩ := Bool.and_eq_true_iff.mp hcheck
  obtain ⟨t, ht, hshape⟩ := exists_ok_of_any hcheck
  have hp : ∀ r ∈ d.directives, r.directive ∈ Directive.allStandard := by
    intro r hr
    have hm : r.directive ∈ d.directives.map RegisteredDirective.directive :=
      List.mem_map_of_mem hr
    rw [Dialect.directives_of_ofDraft hd] at hm
    exact hm
  let r : Run := ⟨.new d 0, .fresh, .unlimited⟩
  let kept : Run := { r with context := r.context.openFrame.addMark preformattedMark }
  obtain ⟨-, -, hall⟩ := @blanks_of_evaluate _ d hd source t ht (standard_of_compile ht hp) r hc
  refine ⟨d, t, hd, ht, ?_⟩
  unfold isKeptAndConditional at hshape
  split at hshape
  · next shape word place last shape' word' word'' place' last' hf =>
    let j : DirectiveInstance := ⟨.standard .conditional, 18,
      [⟨shape', [.keyword word', .expression (.literal (.text "x")), .keyword word''], place'⟩,
        last'], [[.text "a  b" 31]]⟩
    let i : DirectiveInstance := ⟨.standard .preformatted, 0,
      [⟨shape, [.keyword word], place⟩, last], [[.text "c  d" 14, j.node]]⟩
    have hforest : t.forest = [i.node] := hf
    rw [hforest] at hall ⊢
    have hvisit : i.directive.visit 0 ⟨shape, [.keyword word], place⟩ .initial (r.enter i.tags) =
        (.ok .evaluate, .initial, kept) := rfl
    have hcontent : Situation.Reaches ⟨none, .nodes [i.node], r⟩
        ⟨some i, .nodes [.text "c  d" 14, j.node], kept⟩ :=
      .head (.first none i.node [] r) (.head (.directive none i r)
        (.single (.content rfl hvisit rfl)))
    have hput : (Node.text "c  d" 14).render kept =
        (.ok (), { kept with output := kept.output.append "c  d" }) := by
      rw [Node.render, Run.putText_eq, Run.shown_of_marked rfl]
      rfl
    have hkept : Situation.Reaches ⟨none, .nodes [i.node], r⟩
        ⟨some i, .node (.text "c  d" 14), kept⟩ := hcontent.tail (.first _ _ _ _)
    have hcollapsed : Situation.Reaches ⟨none, .nodes [i.node], r⟩
        ⟨some j, .node (.text "a  b" 31), _⟩ :=
      ((((hcontent.tail (.rest hput)).tail (.first _ _ _ _)).tail (.directive _ j _)).tail
        (.content rfl rfl rfl)).tail (.first _ _ _ _)
    exact ⟨⟨_, _, hkept, (hall _ _ _ _ hkept).2.2.1 rfl⟩, _, _, hcollapsed,
      (hall _ _ _ _ hcollapsed).2.2.2 nofun⟩
  · cases hshape

end Template

end TagTemplate
