import Mathlib.Logic.Relation
import TagTemplate.Proofs.Rendering.Course

/-!
# Situations

While a template is rendered, stretches are begun inside stretches: nodes in turn, a directive in a
node, the contents of a directive between its tags. A situation is a stretch about to be rendered,
with the run in which it is and the innermost directive with several tags around it. What holds at
the start and is handed on from each situation to those that it begins holds whenever a stretch is
begun. Every text that a course hands to the output is that of a text node in a situation that was
begun, or the text of an activation.
-/

namespace TagTemplate

/-- Of the directives around a stretch the innermost one with several tags, if there is one. -/
abbrev Scope := Option DirectiveInstance

/-- The scope inside an instance. -/
def DirectiveInstance.scopeIn (i : DirectiveInstance) (around : Scope) : Scope :=
  if 1 < i.tags.length then some i else around

/-- A stretch that is about to be rendered. -/
structure Situation where
  /-- The scope in which it stands. -/
  scope : Scope
  /-- The stretch. -/
  stretch : Stretch
  /-- The run in which it is rendered. -/
  run : Run

/-- A moment of two traces in turn is one of the first or one of the second. -/
theorem Moment.cases_of_append {trace trace' before after : List Moment} {m : Moment}
    (h : trace ++ trace' = before ++ m :: after) :
    (∃ more, trace = before ++ m :: more) ∨
      ∃ more, before = trace ++ more ∧ trace' = more ++ m :: after := by
  rcases List.append_eq_append_iff.mp h with ⟨more, hb, ht⟩ | ⟨more, ht, hm⟩
  · exact .inr ⟨more, hb, ht⟩
  · cases more with
    | nil => exact .inr ⟨[], by simpa using ht.symm, hm.symm⟩
    | cons first more =>
      rw [List.cons_append, List.cons.injEq] at hm
      exact .inl ⟨more, by rw [ht, hm.1]⟩

namespace Situation

/-- The rendering of the stretch in the first situation comes at once to the second. -/
inductive Begins : Situation → Situation → Prop
  /-- Nodes begin with the first of them. -/
  | first (scope : Scope) (node : Node) (rest : Forest) (r : Run) :
    Begins ⟨scope, .nodes (node :: rest), r⟩ ⟨scope, .node node, r⟩
  /-- The next nodes follow a node. -/
  | rest {scope : Scope} {node : Node} {rest : Forest} {r between : Run}
    (h : node.render r = (.ok (), between)) :
    Begins ⟨scope, .nodes (node :: rest), r⟩ ⟨scope, .nodes rest, between⟩
  /-- A directive begins with its first tag. -/
  | directive (scope : Scope) (i : DirectiveInstance) (r : Run) :
    Begins ⟨scope, .node i.node, r⟩ ⟨i.scopeIn scope, .tags i .initial 0, r.enter i.tags⟩
  /-- The directive goes back to its first tag. -/
  | restarted {scope : Scope} {i : DirectiveInstance} {index : Nat} {tag : LexedTag}
    {state state' : DirectiveState} {r between : Run} (ht : i.tags[index]? = some tag)
    (hv : i.directive.visit index tag state r = (.ok .restart, state', between)) :
    Begins ⟨scope, .tags i state index, r⟩ ⟨scope, .tags i state' 0, between⟩
  /-- The directive goes to its next tag at once. -/
  | skipped {scope : Scope} {i : DirectiveInstance} {index : Nat} {tag : LexedTag}
    {state state' : DirectiveState} {r between : Run} (ht : i.tags[index]? = some tag)
    (hv : i.directive.visit index tag state r = (.ok .skip, state', between)) :
    Begins ⟨scope, .tags i state index, r⟩ ⟨scope, .tags i state' (index + 1), between⟩
  /-- The content after the tag is come to. -/
  | content {scope : Scope} {i : DirectiveInstance} {index : Nat} {tag : LexedTag} {body : Forest}
    {state state' : DirectiveState} {r between : Run} (ht : i.tags[index]? = some tag)
    (hv : i.directive.visit index tag state r = (.ok .evaluate, state', between))
    (hb : i.bodies[index]? = some body) :
    Begins ⟨scope, .tags i state index, r⟩ ⟨scope, .nodes body, between⟩
  /-- The next tag follows the content. -/
  | passed {scope : Scope} {i : DirectiveInstance} {index : Nat} {tag : LexedTag} {body : Forest}
    {state state' : DirectiveState} {r between between' : Run} (ht : i.tags[index]? = some tag)
    (hv : i.directive.visit index tag state r = (.ok .evaluate, state', between))
    (hb : i.bodies[index]? = some body)
    (h : Node.renderAll body between = (.ok (), between')) :
    Begins ⟨scope, .tags i state index, r⟩ ⟨scope, .tags i state' (index + 1), between'⟩

/-- The rendering of the stretch in the first situation comes to the second. -/
def Reaches : Situation → Situation → Prop := Relation.ReflTransGen Begins

/-- Where a text comes from that is handed to the output in a run, after the moments before it. -/
inductive Hands (start : Situation) : List Moment → String → Run → Prop
  /-- A text node has just been begun, and the text is what is shown of it. -/
  | text (earlier : List Moment) {scope : Scope} {text : String} {position : Nat} {r : Run}
    (h : start.Reaches ⟨scope, .node (.text text position), r⟩) :
    Hands start
      (earlier ++ [⟨.node (.text text position), r⟩, ⟨.text (r.shown text), r⟩]) (r.shown text) r
  /-- A tag has just been activated, and the text is exactly that of the answer. -/
  | emission (earlier : List Moment) {i : DirectiveInstance} {index : Nat} {tag : LexedTag}
    {state state' : DirectiveState} {activation : Activation} {s : String} {r between : Run}
    (ha : i.directive.activate index tag state r = (.ok activation, state', between))
    (he : activation.emit = some s) :
    Hands start (earlier ++ [⟨.activation i index tag state, r⟩, ⟨.text s, between⟩]) s between

/-- All texts that are handed to the output along a trace come from somewhere. -/
def HandsAll (start : Situation) (trace : List Moment) : Prop :=
  ∀ before s r after, trace = before ++ ⟨.write s, r⟩ :: after → start.Hands before s r

variable {start next : Situation} {before trace trace' : List Moment} {s : String} {r : Run}

/-- More may have happened before. -/
theorem Hands.prepend (h : start.Hands before s r) (earlier : List Moment) :
    start.Hands (earlier ++ before) s r := by
  cases h with
  | text e h =>
    rw [← List.append_assoc]
    exact .text (earlier ++ e) h
  | emission e ha he =>
    rw [← List.append_assoc]
    exact .emission (earlier ++ e) ha he

/-- What is handed on from a situation is handed on from the one that began it. -/
theorem Hands.of_begins (h : next.Hands before s r) (hb : start.Begins next) :
    start.Hands before s r := by
  cases h with
  | text e h => exact .text e (.head hb h)
  | emission e ha he => exact .emission e ha he

namespace HandsAll

/-- Where nothing happens, nothing is handed to the output. -/
theorem nil : start.HandsAll [] := by
  intro before s r after ht
  exact absurd ht.symm (List.append_ne_nil_of_right_ne_nil before (List.cons_ne_nil _ _))

/-- A moment may come before at which no text is handed to the output. -/
theorem cons {m : Moment} (hm : ∀ s, m.happening ≠ .write s) (h : start.HandsAll trace) :
    start.HandsAll (m :: trace) := by
  intro before s r after ht
  cases before with
  | nil =>
    cases ht
    exact absurd rfl (hm s)
  | cons first before =>
    cases ht
    exact (h before s r after rfl).prepend [m]

/-- The texts of one trace and then those of another. -/
theorem append (h : start.HandsAll trace) (h' : start.HandsAll trace') :
    start.HandsAll (trace ++ trace') := by
  intro before s r after ht
  rcases Moment.cases_of_append ht with ⟨more, hm⟩ | ⟨more, rfl, hm⟩
  · exact h before s r more hm
  · exact (h' more s r after hm).prepend trace

/-- A text may follow that comes from somewhere. -/
theorem concat (h : start.HandsAll trace) (hw : start.Hands trace s r) :
    start.HandsAll (trace ++ [⟨.write s, r⟩]) := by
  intro before s' r' after ht
  rcases Moment.cases_of_append ht with ⟨more, hm⟩ | ⟨more, rfl, hm⟩
  · exact h before s' r' more hm
  · obtain ⟨rfl, hlast⟩ := List.append_eq_singleton_iff.mp hm.symm |>.resolve_right (by simp)
    cases hlast
    rwa [List.append_nil]

/-- What all texts come from that are handed on from a situation, they come from where it was
begun. -/
theorem of_begins (h : next.HandsAll trace) (hb : start.Begins next) : start.HandsAll trace :=
  fun before s r after ht => (h before s r after ht).of_begins hb

end HandsAll

end Situation

/-- The text that a visit hands to the output is that of the activation. -/
theorem Visit.handsAll {i : DirectiveInstance} {index : Nat} {tag : LexedTag}
    {state state' : DirectiveState} {r last : Run} {trace : List Moment}
    {result : Except EvalError Flow} (h : Visit i index tag state r trace result state' last)
    (start : Situation) : start.HandsAll trace := by
  have hoffer : ∀ {activation between result last trace},
      i.directive.activate index tag state r = (.ok activation, state', between) →
      Offer activation.emit between trace result last →
      start.HandsAll (⟨.tag i index, r⟩ :: ⟨.activation i index tag state, r⟩ :: trace) := by
    intro activation between result last trace ha ho
    generalize he : activation.emit = emit at ho
    have hbefore : ∀ s, start.HandsAll
        [⟨.tag i index, r⟩, ⟨.activation i index tag state, r⟩, ⟨.text s, between⟩] :=
      fun s => .cons nofun (.cons nofun (.cons nofun .nil))
    cases ho with
    | nothing => exact .cons nofun (.cons nofun .nil)
    | cancelled s hc => exact hbefore s
    | @refused _ s | @taken _ s => exact (hbefore s).concat (.emission [⟨.tag i index, r⟩] ha he)
  cases h with
  | cancelled => exact .cons nofun .nil
  | failed => exact .cons nofun (.cons nofun .nil)
  | unwritten _ ha ho => exact hoffer ha ho
  | answered _ ha ho => exact hoffer ha ho

/-- Every text that a course hands to the output is what is shown of a text node that it has just
begun, or the text of a tag that it has just activated. -/
theorem Course.handsAll {stretch : Stretch} {r last : Run} {trace : List Moment}
    {result : Except EvalError Unit} (h : Course stretch r trace result last) (scope : Scope) :
    (Situation.mk scope stretch r).HandsAll trace := by
  induction h generalizing scope with
  | @text s position r last trace result ho =>
    let start : Situation := ⟨scope, .node (.text s position), r⟩
    have hbefore : start.HandsAll [⟨.node (.text s position), r⟩, ⟨.text (r.shown s), r⟩] :=
      .cons nofun (.cons nofun .nil)
    have hshown : start.Hands [⟨.node (.text s position), r⟩, ⟨.text (r.shown s), r⟩]
        (r.shown s) r := .text [] .refl
    generalize r.shown s = shown at ho hbefore hshown
    cases ho with
    | cancelled => exact hbefore
    | refused | taken => exact hbefore.concat hshown
  | @directive i r last trace result _ ih =>
    exact .cons nofun ((ih (i.scopeIn scope)).of_begins (.directive scope i r))
  | done r => exact .nil
  | @stopped node rest r last trace error _ ih => exact (ih scope).of_begins (.first scope node rest r)
  | @next node rest r between last trace trace' result h _ ih ih' =>
    have hfirst := (ih scope).of_begins (.first scope node rest r)
    exact hfirst.append ((ih' scope).of_begins (.rest h.render_eq))
  | past r _ => exact .nil
  | failed _ hv => exact hv.handsAll _
  | ended _ hv => exact hv.handsAll _
  | restarted ht hv _ ih =>
    exact (hv.handsAll _).append ((ih scope).of_begins (.restarted ht hv.visit_eq))
  | skipped ht hv _ ih =>
    exact (hv.handsAll _).append ((ih scope).of_begins (.skipped ht hv.visit_eq))
  | bare _ hv _ => exact hv.handsAll _
  | broken ht hv hb _ ih =>
    exact (hv.handsAll _).append ((ih scope).of_begins (.content ht hv.visit_eq hb))
  | entered ht hv hb h _ ih ih' =>
    have hcontent := (ih scope).of_begins (.content ht hv.visit_eq hb)
    have hpassed := (ih' scope).of_begins (.passed ht hv.visit_eq hb h.render_eq)
    exact (hv.handsAll _).append (hcontent.append hpassed)

end TagTemplate
