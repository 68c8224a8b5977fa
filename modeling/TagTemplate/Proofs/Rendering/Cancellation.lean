import TagTemplate.Proofs.Rendering.Trace
import TagTemplate.Proofs.Template.Compiled

/-!
# Cancellation

A cancellation flag can be raised before a rendering or by an activation in it. Nothing is done
once it is raised: what comes next is a look at the flag, at most after a node has been begun, and
the look ends the rendering with a cancellation, whatever is around it and whatever the options
say.
-/

namespace TagTemplate

/-- Whether something is done: a tag is activated or a text is handed to the output. -/
def Happening.isDeed : Happening → Bool
  | activation _ _ _ _ | write _ => true
  | node _ | tag _ _ | text _ => false

/-- Whether the cancellation flag is looked at. -/
def Happening.isLook : Happening → Bool
  | tag _ _ | text _ => true
  | node _ | activation _ _ _ _ | write _ => false

/-- Where something is done the flag is not looked at. -/
theorem Happening.isLook_of_isDeed {h : Happening} (hd : h.isDeed = true) : h.isLook = false := by
  cases h with
  | activation | write => rfl
  | node | tag | text => cases hd

namespace Moment

/-- Where nothing is done nothing changes. -/
theorem after_eq_run {m : Moment} (h : m.happening.isDeed = false) : m.after = m.run := by
  obtain ⟨happening, run⟩ := m
  cases happening with
  | node | tag | text => rfl
  | activation | write => cases h

/-- Where the evaluation is cancelled before a moment it is cancelled after it. -/
theorem isCancelled_after {m : Moment} (h : m.run.isCancelled = true) :
    m.after.isCancelled = true := by
  unfold after
  split
  · next i index tag state _ =>
    have hf := (Directive.sameBelow_activate i.directive index tag state m.run).flag
    unfold Run.isCancelled Context.isCancelled at h ⊢
    rw [hf]
    exact Directive.isRaised_activate h
  · split
    · exact h
    · exact h
  all_goals exact h

/-- Only the activation of a tag cancels the evaluation. -/
theorem exists_activation_of_isCancelled {m : Moment} (h : m.run.isCancelled = false)
    (ha : m.after.isCancelled = true) :
    ∃ i index tag state, m.happening = .activation i index tag state := by
  have hsame : m.run.isCancelled = true → ∃ i index tag state,
      m.happening = .activation i index tag state := fun hc => by
    rw [h] at hc
    cases hc
  unfold after at ha
  split at ha
  · next i index tag state hm => exact ⟨i, index, tag, state, hm⟩
  · split at ha
    · exact hsame ha
    · exact hsame ha
  all_goals exact hsame ha

end Moment

namespace Tells

variable {r last : Run} {trace : List Moment}

/-- From a cancelled run on every run is cancelled. -/
theorem isCancelled_of_mem (h : Tells r trace last) (hr : r.isCancelled = true) :
    ∀ m ∈ trace, m.run.isCancelled = true := by
  induction h with
  | nil => exact fun m hm => absurd hm List.not_mem_nil
  | cons ha _ ih =>
    rw [← ha.isCancelled_eq] at hr
    exact List.forall_mem_cons.mpr ⟨hr, ih (Moment.isCancelled_after hr)⟩

/-- Where nothing is done the run at the end is like the one at the beginning. -/
theorem alike (h : Tells r trace last) (hd : ∀ m ∈ trace, m.happening.isDeed = false) :
    r.Alike last := by
  induction h with
  | nil h => exact h
  | cons h _ ih =>
    obtain ⟨hm, hd⟩ := List.forall_mem_cons.mp hd
    rw [Moment.after_eq_run hm] at ih
    exact h.trans (ih hd)

/-- From a cancelled moment on every moment is cancelled. -/
theorem pairwise_isCancelled (h : Tells r trace last) :
    trace.Pairwise fun m m' => m.run.isCancelled = true → m'.run.isCancelled = true := by
  induction h with
  | nil => exact .nil
  | cons _ ht ih =>
    exact .cons (fun m hm hc => ht.isCancelled_of_mem (Moment.isCancelled_after hc) m hm) ih

/-- Between two moments that follow each other the evaluation is cancelled only by the activation
that the first one is. -/
theorem isChain_activation (h : Tells r trace last) :
    trace.IsChain fun m m' => m.run.isCancelled = false → m'.run.isCancelled = true →
      ∃ i index tag state, m.happening = .activation i index tag state := by
  induction h with
  | nil => exact .nil
  | cons _ ht ih => cases ht with
    | nil => exact .singleton _
    | cons ha _ =>
      refine .cons_cons (fun hm hc => ?_) ih
      rw [ha.isCancelled_eq] at hc
      exact Moment.exists_activation_of_isCancelled hm hc

end Tells

/-- How a trace ends from a cancelled moment on. -/
inductive Ending : List Moment → Prop
  /-- The flag is looked at. -/
  | look {m : Moment} (h : m.happening.isLook = true) : Ending [m]
  /-- A node has been begun, and the flag is looked at. -/
  | node (n : Node) (r : Run) {m : Moment} (h : m.happening.isLook = true) :
    Ending [⟨.node n, r⟩, m]

/-- Whether a trace ends as soon as the evaluation is cancelled; if it is, `P` holds. -/
def Stops (trace : List Moment) (P : Prop) : Prop :=
  ∀ before m after, trace = before ++ m :: after → m.run.isCancelled = true →
    P ∧ Ending (m :: after)

namespace Stops

variable {trace trace' : List Moment} {P Q : Prop} {m : Moment}

/-- A trace without moments. -/
theorem nil : Stops [] P := fun before m after h => by cases before <;> cases h

/-- A moment before a trace. -/
theorem cons (hm : m.run.isCancelled = true → P ∧ Ending (m :: trace)) (h : Stops trace P) :
    Stops (m :: trace) P := by
  intro before m' after ht hc
  cases before with
  | nil =>
    cases ht
    exact hm hc
  | cons first before =>
    cases ht
    exact h before m' after rfl hc

/-- A moment before a trace at which the evaluation is not cancelled. -/
theorem cons_of_false (hm : m.run.isCancelled = false) (h : Stops trace P) :
    Stops (m :: trace) P :=
  h.cons fun hc => by
    rw [hm] at hc
    cases hc

/-- What holds if the evaluation is cancelled may be less. -/
theorem imp (h : Stops trace P) (hpq : P → Q) : Stops trace Q :=
  fun before m after ht hc => (h before m after ht hc).imp_left hpq

/-- A trace in which the evaluation is never cancelled may be followed by another. -/
theorem append (h : Stops trace False) (h' : Stops trace' P) : Stops (trace ++ trace') P := by
  intro before m after ht hc
  rcases List.append_eq_append_iff.mp ht with ⟨more, rfl, hm⟩ | ⟨more, rfl, hm⟩
  · exact h' more m after hm hc
  · cases more with
    | nil => exact h' [] m after hm.symm hc
    | cons first more =>
      cases hm
      exact (h before m more rfl hc).1.elim

/-- At a cancelled moment nothing is done. -/
theorem isDeed_eq_false (h : Stops trace P) (hm : m ∈ trace) (hc : m.run.isCancelled = true) :
    m.happening.isDeed = false := by
  rw [← Bool.not_eq_true]
  intro hd
  obtain ⟨before, after, ht⟩ := List.append_of_mem hm
  obtain ⟨-, he⟩ := h before m after ht hc
  cases he with
  | look hl =>
    rw [Happening.isLook_of_isDeed hd] at hl
    cases hl
  | node => cases hd

end Stops

/-- The way to a text stops when the evaluation is cancelled. -/
theorem Offer.stops {emit : Option String} {r last : Run} {trace : List Moment}
    {result : Except EvalError Unit} (h : Offer emit r trace result last) :
    Stops trace (result = .error .cancelled) := by
  cases h with
  | nothing => exact .nil
  | cancelled => exact .cons (fun _ => ⟨rfl, .look rfl⟩) .nil
  | refused hc _ => exact .cons_of_false hc (.cons_of_false hc .nil)
  | taken hc _ => exact .cons_of_false hc (.cons_of_false hc .nil)

/-- A visit stops when the evaluation is cancelled. -/
theorem Visit.stops {i : DirectiveInstance} {index : Nat} {tag : LexedTag}
    {state state' : DirectiveState} {r last : Run} {trace : List Moment}
    {result : Except EvalError Flow} (h : Visit i index tag state r trace result state' last) :
    Stops trace (result = .error .cancelled) := by
  cases h with
  | cancelled => exact .cons (fun _ => ⟨rfl, .look rfl⟩) .nil
  | failed hc _ => exact .cons_of_false hc (.cons_of_false hc .nil)
  | unwritten hc _ ho =>
    exact .cons_of_false hc (.cons_of_false hc (ho.stops.imp fun he => by cases he; rfl))
  | answered hc _ ho => exact .cons_of_false hc (.cons_of_false hc (ho.stops.imp nofun))

/-- While a visit finds a way to go, the evaluation is not cancelled before it goes. -/
theorem Visit.stops_of_ok {i : DirectiveInstance} {index : Nat} {tag : LexedTag}
    {state state' : DirectiveState} {r last : Run} {trace : List Moment} {flow : Flow}
    (h : Visit i index tag state r trace (.ok flow) state' last) : Stops trace False :=
  h.stops.imp nofun

/-- In a cancelled run nothing comes of a text but a look at the flag. -/
theorem Offer.eq_of_isCancelled {s : String} {r last : Run} {trace : List Moment}
    {result : Except EvalError Unit} (h : Offer (some s) r trace result last)
    (hr : r.isCancelled = true) : result = .error .cancelled ∧ trace = [⟨.text s, r⟩] := by
  cases h with
  | cancelled => exact ⟨rfl, rfl⟩
  | refused hc _ | taken hc _ =>
    rw [hc] at hr
    cases hr

/-- In a cancelled run nothing comes of a tag but a look at the flag. -/
theorem Visit.eq_of_isCancelled {i : DirectiveInstance} {index : Nat} {tag : LexedTag}
    {state state' : DirectiveState} {r last : Run} {trace : List Moment}
    {result : Except EvalError Flow} (h : Visit i index tag state r trace result state' last)
    (hr : r.isCancelled = true) : result = .error .cancelled ∧ trace = [⟨.tag i index, r⟩] := by
  cases h with
  | cancelled => exact ⟨rfl, rfl⟩
  | failed hc _ | unwritten hc _ _ | answered hc _ _ =>
    rw [hc] at hr
    cases hr

/-- In a cancelled run an instance does not go beyond the tag that it comes to. -/
theorem Course.eq_of_isCancelled {i : DirectiveInstance} {state : DirectiveState}
    {index : Nat} {r last : Run} {trace : List Moment} {result : Except EvalError Unit}
    (h : Course (.tags i state index) r trace result last) (hr : r.isCancelled = true)
    (hi : index < i.tags.length) :
    result = .error .cancelled ∧ trace = [⟨.tag i index, r⟩] := by
  cases h with
  | past _ ht => exact absurd hi (Nat.not_lt.mpr (List.getElem?_eq_none_iff.mp ht))
  | failed _ hv =>
    obtain ⟨he, ht⟩ := hv.eq_of_isCancelled hr
    cases he
    exact ⟨rfl, ht⟩
  | ended _ hv => cases (hv.eq_of_isCancelled hr).1
  | restarted _ hv _ => cases (hv.eq_of_isCancelled hr).1
  | skipped _ hv _ => cases (hv.eq_of_isCancelled hr).1
  | bare _ hv _ => cases (hv.eq_of_isCancelled hr).1
  | broken _ hv _ _ => cases (hv.eq_of_isCancelled hr).1
  | entered _ hv _ _ _ => cases (hv.eq_of_isCancelled hr).1

/-- The course of a node begins with it. -/
theorem Course.exists_node {n : Node} {r last : Run} {trace : List Moment}
    {result : Except EvalError Unit} (h : Course (.node n) r trace result last) :
    ∃ after, trace = ⟨.node n, r⟩ :: after := by
  cases h with
  | text => exact ⟨_, rfl⟩
  | directive => exact ⟨_, rfl⟩

/-- The course of nodes begins with the first one. -/
theorem Course.exists_first {n : Node} {rest : Forest} {r last : Run} {trace : List Moment}
    {result : Except EvalError Unit} (h : Course (.nodes (n :: rest)) r trace result last) :
    ∃ after, trace = ⟨.node n, r⟩ :: after := by
  cases h with
  | stopped h => exact h.exists_node
  | next h _ =>
    obtain ⟨after, rfl⟩ := h.exists_node
    exact ⟨_, rfl⟩

/-- Whether every directive in a stretch has a tag. -/
def Stretch.Tagged : Stretch → Prop
  | .node n => n.Everywhere fun _ _ tags _ => tags ≠ []
  | .nodes forest => forest.Everywhere fun _ _ tags _ => tags ≠ []
  | .tags i _ _ => ∀ body ∈ i.bodies, Forest.Everywhere (fun _ _ tags _ => tags ≠ []) body

/-- Every course stops when the evaluation is cancelled. -/
theorem Course.stops {s : Stretch} {r last : Run} {trace : List Moment}
    {result : Except EvalError Unit} (h : Course s r trace result last) (hs : s.Tagged) :
    Stops trace (result = .error .cancelled) := by
  induction h with
  | @text s position r last trace result ho =>
    refine .cons (fun hc => ?_) ho.stops
    obtain ⟨hresult, rfl⟩ := ho.eq_of_isCancelled hc
    exact ⟨hresult, .node _ _ rfl⟩
  | @directive i r last trace result h ih =>
    cases hs with
    | directive ht hb =>
      refine .cons (fun hc => ?_) ((ih hb).imp fun he => ?_)
      · rw [← Run.isCancelled_enter] at hc
        obtain ⟨rfl, rfl⟩ := h.eq_of_isCancelled hc (List.length_pos_iff.mpr ht)
        exact ⟨rfl, .node _ _ rfl⟩
      · rw [he]
        rfl
  | done r => exact .nil
  | stopped _ ih => exact ih (hs _ List.mem_cons_self)
  | next _ _ ih ih' =>
    refine ((ih (hs _ List.mem_cons_self)).imp nofun).append (ih' fun n hn => ?_)
    exact hs n (List.mem_cons_of_mem _ hn)
  | past r _ => exact .nil
  | failed _ hv => exact hv.stops.imp fun he => by cases he; rfl
  | ended _ hv => exact hv.stops_of_ok.imp nofun
  | restarted _ hv _ ih => exact hv.stops_of_ok.append (ih hs)
  | skipped _ hv _ ih => exact hv.stops_of_ok.append (ih hs)
  | bare _ hv _ => exact hv.stops_of_ok.imp nofun
  | broken _ hv hb _ ih => exact hv.stops_of_ok.append (ih (hs _ (List.mem_of_getElem? hb)))
  | entered _ hv hb _ _ ih ih' =>
    have hbody : Stops _ False := (ih (hs _ (List.mem_of_getElem? hb))).imp nofun
    exact hv.stops_of_ok.append (hbody.append (ih' hs))

namespace Template

variable {t : Template}

/-- Every directive in a template that was compiled has a tag. -/
theorem tagged_of_compile {d : Dialect} {source : String} (ht : compile d source = .ok t) :
    (Stretch.nodes t.forest).Tagged := by
  intro node hn
  refine (everywhere_of_compile ht node hn).imp fun directive position tags bodies hf => ?_
  have hl := hf.1.separated
  exact List.ne_nil_of_length_pos (by omega)

/-- The evaluation of a template that was compiled takes a course, and along every course that it
takes a cancellation is obeyed at once. The course tells every change of the host and of the
output. The evaluation is cancelled before it begins or by the activation of a tag, and stays
cancelled. At no moment at which it is cancelled is a tag activated or a text handed to the output.
From the first such moment on the flag is looked at, at most after a node has been begun, and the
result is a cancellation. If the evaluation is cancelled before a template with a node is
evaluated, the result is a cancellation, and nothing is written. -/
theorem cancellation_of_evaluate {d : Dialect} {source : String} (ht : compile d source = .ok t)
    (r : Run) :
    (∃ trace result last, Course (.nodes t.forest) r trace result last) ∧
      (∀ trace result last, Course (.nodes t.forest) r trace result last →
        t.evaluate r = (result.mapError .ofEval, last) ∧ Tells r trace last ∧
        (trace.IsChain fun m m' => m.run.isCancelled = false → m'.run.isCancelled = true →
          ∃ i index tag state, m.happening = .activation i index tag state) ∧
        (trace.Pairwise fun m m' => m.run.isCancelled = true → m'.run.isCancelled = true) ∧
        (∀ m ∈ trace, m.run.isCancelled = true → m.happening.isDeed = false) ∧
        ∀ before m after, trace = before ++ m :: after → m.run.isCancelled = true →
          (t.evaluate r).1 = .error .cancelled ∧ Ending (m :: after)) ∧
      (r.isCancelled = true → t.forest ≠ [] →
        (t.evaluate r).1 = .error .cancelled ∧ (t.evaluate r).2.output = r.output) := by
  have hstops : ∀ {trace result last}, Course (.nodes t.forest) r trace result last →
      Stops trace ((t.evaluate r).1 = .error .cancelled) := by
    intro trace result last hc
    refine (hc.stops (tagged_of_compile ht)).imp fun he => ?_
    rw [evaluate_eq_of_course hc, he]
    rfl
  refine ⟨t.exists_course r, fun trace result last hc => ?_, fun hr hne => ?_⟩
  · exact ⟨evaluate_eq_of_course hc, hc.tells, hc.tells.isChain_activation,
      hc.tells.pairwise_isCancelled, fun _ hm => (hstops hc).isDeed_eq_false hm, hstops hc⟩
  · obtain ⟨trace, result, last, hc⟩ := t.exists_course r
    have hcancelled := hc.tells.isCancelled_of_mem hr
    have halike := hc.tells.alike fun m hm => (hstops hc).isDeed_eq_false hm (hcancelled m hm)
    refine ⟨?_, ?_⟩
    · obtain ⟨n, rest, hforest⟩ := List.exists_cons_of_ne_nil hne
      have hcourse := hc
      rw [hforest] at hcourse
      obtain ⟨after, htrace⟩ := hcourse.exists_first
      exact (hstops hc [] ⟨.node n, r⟩ after htrace hr).1
    · rw [evaluate_eq_of_course hc]
      exact halike.output

/-- Whether a forest shows what the function t gives, and then a text. -/
def isInvocationAndText : Forest → Bool
  | [.directive (.standard .interpolation) 0
      [⟨_, [.expression (.invoke (.identifier "t") [])], _⟩] [], .text "b" 5] => true
  | _ => false

/-- The law at an expression that cancels the evaluation, and where it is cancelled before; errors
are ignored. -/
theorem cancellation_of_evaluate_invoked :
    ∃ d t, Dialect.standard = .ok d ∧ compile d "\x7bt()\x7db" = .ok t ∧
      let ticking : Value := .object (.host 0 none [] [] [("t", .count 0 (some 1) 0)])
      let c : Context := ⟨d, .empty, [], some ticking, ⟨true, false, false⟩, 0⟩
      ((t.evaluate ⟨c, .fresh, .unlimited⟩).1 = .error .cancelled ∧
        ∃ trace result last, Course (.nodes t.forest) ⟨c, .fresh, .unlimited⟩ trace result last ∧
          last.isCancelled = true ∧
          ∀ m ∈ trace, m.run.isCancelled = true → m.happening.isDeed = false) ∧
        (t.evaluate ⟨c, ⟨[], [0]⟩, .unlimited⟩).1 = .error .cancelled := by
  have hcheck : (Dialect.standard.toOption.any fun d =>
      (compile d "\x7bt()\x7db").toOption.any fun t =>
        isInvocationAndText t.forest) = true := by decide +kernel
  obtain ⟨d, t, hd, ht, hshape⟩ := exists_compile hcheck
  refine ⟨d, t, hd, ht, ?_⟩
  intro ticking c
  unfold isInvocationAndText at hshape
  split at hshape
  · next shape place hf =>
    let tag : LexedTag := ⟨shape, [.expression (.invoke (.identifier "t") [])], place⟩
    let i : DirectiveInstance := ⟨.standard .interpolation, 0, [tag], []⟩
    have hforest : t.forest = [i.node, .text "b" 5] := hf
    let r : Run := ⟨c, .fresh, .unlimited⟩
    let last : Run := { r with host := ⟨[(0, 1)], [0]⟩ }
    have hinvoke : c.invoke none "t" [] r.host = (.ok (.number (.ofNat 1)), last.host) := by
      have hm : Record.find? d.nameCase "t" [("t", Method.count 0 (some 1) 0)] =
          some (.count 0 (some 1) 0) := if_pos (d.nameCase.same_refl "t")
      dsimp only [Context.invoke, Value.invokeMember, Object.invoke, c, ticking]
      rw [hm]
      rfl
    have hv : (TagPart.values c tag.parts).on r.host =
        (.ok [.number (.ofNat 1)], last.host) := by
      have he : ((Expr.invoke (.identifier "t") []).eval c).on r.host =
          (.ok (.number (.ofNat 1)), last.host) :=
        (Eval.on_invoking c none "t" [] r.host).trans hinvoke
      rw [TagPart.values, Eval.on_bind, he]
      rfl
    have ha : i.directive.activate 0 tag .initial r =
        (.ok ⟨.terminate, some (d.coercion.text (.number (.ofNat 1)))⟩, .initial, last) := by
      unfold Directive.activate
      rw [hv]
      rfl
    have hi : Course (.tags i .initial 0) (r.enter i.tags) _ (.error .cancelled) last :=
      .failed rfl (.unwritten rfl ha (.cancelled _ rfl))
    have hc : Course (.nodes [i.node, .text "b" 5]) r _ (.error .cancelled) last :=
      .stopped (.directive hi)
    rw [← hforest] at hc
    obtain ⟨-, hall, -⟩ := cancellation_of_evaluate ht r
    obtain ⟨-, -, -, -, hdeeds, hends⟩ := hall _ _ _ hc
    -- The moment that is cancelled is the fourth one, at which the text of the count is come to.
    have hend := hends [_, _, _] ⟨.text _, last⟩ [] rfl rfl
    have hne : t.forest ≠ [] := hforest ▸ List.cons_ne_nil _ _
    have hbefore := (cancellation_of_evaluate ht ⟨c, ⟨[], [0]⟩, .unlimited⟩).2.2 rfl hne
    exact ⟨⟨hend.1, _, _, _, hc, rfl, hdeeds⟩, hbefore.1⟩
  · cases hshape

end Template

end TagTemplate
