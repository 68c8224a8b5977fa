import TagTemplate.Proofs.Rendering.Leniency

/-!
# Renderings into other outputs

What a rendering writes into an output that takes every text does not depend on the output. Into
any other output it writes the same texts one after another, up to the first one that is refused;
that ends the rendering, whatever is ignored, and nothing is written after it. So what arrives at
an output with a limit is all that there is to be written or the beginning of it.
-/

namespace TagTemplate

namespace Output

/-- Whether every text is taken, whatever was taken before. -/
def IsEndless (o : Output) : Prop := ∀ texts s, o.takes texts s = true

theorem isEndless_unlimited : unlimited.IsEndless := fun _ _ => rfl

/-- Whether texts are taken one after another. -/
def accepts : Output → List String → Bool
  | _, [] => true
  | o, s :: ss => o.fits s && (o.append s).accepts ss

/-- The output after texts were handed to it in turn, up to the first one that it refuses. -/
def receive : Output → List String → Output
  | o, [] => o
  | o, s :: ss => if o.fits s then (o.append s).receive ss else o

variable {o : Output} {s : String} {ss ss' : List String}

@[simp] theorem accepts_nil : o.accepts [] = true := rfl

@[simp] theorem receive_nil : o.receive [] = o := rfl

@[simp] theorem accepts_cons :
    o.accepts (s :: ss) = (o.fits s && (o.append s).accepts ss) := rfl

theorem receive_cons :
    o.receive (s :: ss) = if o.fits s then (o.append s).receive ss else o := rfl

theorem receive_cons_of_fits (h : o.fits s = true) :
    o.receive (s :: ss) = (o.append s).receive ss :=
  if_pos h

/-- What decides about further texts stays the same. -/
@[simp] theorem takes_receive : (o.receive ss).takes = o.takes := by
  induction ss generalizing o with
  | nil => rfl
  | cons s ss ih =>
    rw [receive_cons]
    split
    · rw [ih]
      rfl
    · rfl

theorem accepts_append :
    o.accepts (ss ++ ss') = (o.accepts ss && (o.receive ss).accepts ss') := by
  induction ss generalizing o with
  | nil => rfl
  | cons s ss ih =>
    cases h : o.fits s with
    | false => simp [h]
    | true => simp [receive_cons_of_fits h, h, ih]

/-- Texts that are all taken are followed by those that come then. -/
theorem receive_append (h : o.accepts ss = true) :
    o.receive (ss ++ ss') = (o.receive ss).receive ss' := by
  induction ss generalizing o with
  | nil => rfl
  | cons s ss ih =>
    rw [accepts_cons, Bool.and_eq_true] at h
    rw [List.cons_append, receive_cons_of_fits h.1, receive_cons_of_fits h.1, ih h.2]

/-- Nothing follows texts of which one is refused. -/
theorem receive_append_of_refused (h : o.accepts ss = false) :
    o.receive (ss ++ ss') = o.receive ss := by
  induction ss generalizing o with
  | nil => cases h
  | cons s ss ih =>
    cases hf : o.fits s with
    | false => simp [receive_cons, hf]
    | true =>
      rw [accepts_cons, hf, Bool.true_and] at h
      rw [List.cons_append, receive_cons_of_fits hf, receive_cons_of_fits hf, ih h]

/-- Texts that are all taken stand after those that were taken before. -/
theorem texts_receive (h : o.accepts ss = true) :
    (o.receive ss).texts = ss.reverse ++ o.texts := by
  induction ss generalizing o with
  | nil => rfl
  | cons s ss ih =>
    rw [accepts_cons, Bool.and_eq_true] at h
    rw [receive_cons_of_fits h.1, ih h.2, List.reverse_cons, List.append_assoc]
    rfl

/-- Of texts that are not all taken there is a first one that is refused; those before it are
taken. -/
theorem exists_refused (h : o.accepts ss = false) :
    ∃ before s after, ss = before ++ s :: after ∧
      (o.receive ss).texts = before.reverse ++ o.texts ∧ (o.receive ss).fits s = false := by
  induction ss generalizing o with
  | nil => cases h
  | cons s ss ih =>
    cases hf : o.fits s with
    | false => exact ⟨[], s, ss, rfl, by simp [receive_cons, hf], by simp [receive_cons, hf]⟩
    | true =>
      rw [accepts_cons, hf, Bool.true_and] at h
      obtain ⟨before, refused, after, rfl, ht, hr⟩ := ih h
      rw [receive_cons_of_fits hf]
      refine ⟨s :: before, refused, after, rfl, ?_, hr⟩
      rw [ht, List.reverse_cons, List.append_assoc]
      rfl

/-- Where every text is taken all of them are. -/
theorem IsEndless.accepts (h : o.IsEndless) (ss : List String) : o.accepts ss = true := by
  induction ss generalizing o with
  | nil => rfl
  | cons s ss ih =>
    have hf : o.fits s = true := h o.texts s
    rw [accepts_cons, hf, Bool.true_and]
    exact ih (o := o.append s) h

theorem IsEndless.receive (h : o.IsEndless) (ss : List String) : (o.receive ss).IsEndless := by
  unfold IsEndless
  rwa [takes_receive]

end Output

namespace Run

/-- The run with another output. -/
def into (r : Run) (o : Output) : Run := { r with output := o }

variable {r : Run} {o : Output} {tags : List LexedTag}

@[simp] theorem context_into : (r.into o).context = r.context := rfl

@[simp] theorem host_into : (r.into o).host = r.host := rfl

@[simp] theorem output_into : (r.into o).output = o := rfl

@[simp] theorem isCancelled_into : (r.into o).isCancelled = r.isCancelled := rfl

theorem enter_into : (r.into o).enter tags = (r.enter tags).into o := by
  unfold enter
  split <;> rfl

theorem leave_into : (r.into o).leave tags = (r.leave tags).into o := by
  unfold leave
  split <;> rfl

end Run

/-- An activation does not look at the output. -/
theorem Directive.activate_into (d : Directive) (index : Nat) (tag : LexedTag)
    (state : DirectiveState) (r : Run) (o : Output) :
    d.activate index tag state (r.into o) =
      ((d.activate index tag state r).1, (d.activate index tag state r).2.1,
        (d.activate index tag state r).2.2.into o) := by
  unfold activate
  rw [Run.context_into, Run.host_into]
  rcases (TagPart.values r.context tag.parts).on r.host with ⟨error | components, host⟩ <;> rfl

/-- After an activation its text is offered. -/
theorem Directive.visit_of_activate {d : Directive} {index : Nat} {tag : LexedTag}
    {state state' : DirectiveState} {r between : Run} {activation : Activation}
    {outcome : Except EvalError Flow × Run} (hc : r.isCancelled = false)
    (ha : d.activate index tag state r = (.ok activation, state', between))
    (ho : outcome =
      andThen (Run.putAny activation.emit between) fun () r => (.ok activation.flow, r)) :
    d.visit index tag state r = (outcome.1, state', outcome.2) := by
  rw [ho, visit, if_neg (ne_true_of_eq_false hc), ha]
  dsimp only
  rcases Run.putAny activation.emit between with ⟨error | u, last⟩ <;> rfl

/-- What a part of a rendering comes to in the output `o`, if in an output that takes every text
it came to a result and a last run and wrote the texts `ss`: to the same if all of these are taken,
else to its end at the first one that is refused. -/
structure Echo {α : Type} (o : Output) (ss : List String) (result : Except EvalError α)
    (last : Run) (outcome : Except EvalError α × Run) : Prop where
  /-- All texts are taken. -/
  whole (h : o.accepts ss = true) : outcome = (result, last.into (o.receive ss))
  /-- One of the texts is refused. -/
  cut (h : o.accepts ss = false) : outcome.1 = .error .write ∧ outcome.2.output = o.receive ss

namespace Echo

variable {α β : Type} {o : Output} {ss ss' : List String} {between last : Run}
  {outcome : Except EvalError α × Run} {next : α → Run → Except EvalError β × Run}

/-- What writes nothing comes to the same in every output. -/
theorem silent {result : Except EvalError α} (h : outcome = (result, last.into o)) :
    Echo o [] result last outcome :=
  ⟨fun _ => h, nofun⟩

/-- A part that fails is the end of the whole. -/
theorem stop {error : EvalError} (h : Echo o ss (.error error) last outcome) :
    Echo o ss (.error error) last (andThen outcome next) where
  whole ha := by
    rw [h.whole ha]
    rfl
  cut ha := by
    obtain ⟨result, r⟩ := outcome
    obtain ⟨hr, ho⟩ := h.cut ha
    cases hr
    exact ⟨rfl, ho⟩

/-- A part that succeeds is followed by the next one, unless it is cut short. -/
theorem followed {a : α} {result : Except EvalError β} (h : Echo o ss (.ok a) between outcome)
    (h' : ∀ o', Echo o' ss' result last (next a (between.into o'))) :
    Echo o (ss ++ ss') result last (andThen outcome next) := by
  cases ha : o.accepts ss with
  | true =>
    rw [h.whole ha]
    refine ⟨fun hw => ?_, fun hc => ?_⟩
    · rw [Output.accepts_append, ha, Bool.true_and] at hw
      rw [Output.receive_append ha]
      exact (h' _).whole hw
    · rw [Output.accepts_append, ha, Bool.true_and] at hc
      rw [Output.receive_append ha]
      exact (h' _).cut hc
  | false =>
    refine ⟨fun hw => ?_, fun _ => ?_⟩
    · rw [Output.accepts_append, ha] at hw
      cases hw
    · rw [Output.receive_append_of_refused ha]
      obtain ⟨first, r⟩ := outcome
      obtain ⟨hr, ho⟩ := h.cut ha
      cases hr
      exact ⟨rfl, ho⟩

/-- A directive comes to what its tags come to, settled; a refused text is never ignored. -/
theorem directive {i : DirectiveInstance} {r : Run} {result : Except EvalError Unit}
    (h : Echo o ss result last ((Stretch.tags i .initial 0).render ((r.into o).enter i.tags))) :
    Echo o ss (i.directive.settle i.position last.context.options result) (last.leave i.tags)
      ((Stretch.node i.node).render (r.into o)) := by
  rw [Stretch.render_node]
  refine ⟨fun ha => ?_, fun ha => ?_⟩
  · rw [h.whole ha, ← Run.leave_into]
    rfl
  · obtain ⟨hr, ho⟩ := h.cut ha
    dsimp only
    rw [hr, Run.output_leave, ho]
    exact ⟨Directive.settle_of_not_ignorable rfl, rfl⟩

end Echo

/-- A text that is come to is handed to every output. -/
theorem Offer.echo {emit : Option String} {r last : Run} {trace : List Moment}
    {result : Except EvalError Unit} (h : Offer emit r trace result last)
    (he : r.output.IsEndless) :
    ∃ ss, last.output = r.output.receive ss ∧
      ∀ o, Echo o ss result last (Run.putAny emit (r.into o)) := by
  cases h with
  | nothing => exact ⟨[], rfl, fun o => .silent rfl⟩
  | cancelled s hc => exact ⟨[], rfl, fun o => .silent (by simp [Run.putAny, Run.put, hc])⟩
  | refused _ hf =>
    rw [Output.fits, he] at hf
    cases hf
  | taken hc hf =>
    rename_i s
    refine ⟨[s], by rw [Output.receive_cons_of_fits hf, Output.receive_nil], fun o => ?_⟩
    cases ho : o.fits s with
    | true => exact ⟨fun _ => by simp [Run.putAny, Run.put, hc, ho, Output.receive_cons]; rfl,
        fun h => by simp [ho] at h⟩
    | false => exact ⟨fun h => by simp [ho] at h,
        fun _ => by simp [Run.putAny, Run.put, hc, ho, Output.receive_cons]⟩

/-- A visit does the same in every output, up to the text that it hands to it. -/
theorem Visit.echo {i : DirectiveInstance} {index : Nat} {tag : LexedTag}
    {state state' : DirectiveState} {r last : Run} {trace : List Moment}
    {result : Except EvalError Flow} (h : Visit i index tag state r trace result state' last)
    (he : r.output.IsEndless) :
    ∃ ss, last.output = r.output.receive ss ∧
      ∀ o, ∃ outcome, i.directive.visit index tag state (r.into o) =
        (outcome.1, state', outcome.2) ∧ Echo o ss result last outcome := by
  have hw := Directive.output_activate i.directive index tag state r
  have hi := Directive.activate_into i.directive index tag state r
  cases h with
  | cancelled hc =>
    refine ⟨[], rfl, fun o => ⟨(.error .cancelled, r.into o), ?_, .silent rfl⟩⟩
    exact if_pos hc
  | failed hc ha =>
    rw [ha] at hw hi
    refine ⟨[], hw, fun o => ⟨(.error _, last.into o), ?_, .silent rfl⟩⟩
    rw [Directive.visit, Run.isCancelled_into, if_neg (ne_true_of_eq_false hc), hi]
  | unwritten hc ha ho =>
    rw [ha] at hw hi
    obtain ⟨ss, hs, hecho⟩ := ho.echo (hw ▸ he)
    exact ⟨ss, hw ▸ hs, fun o => ⟨_, Directive.visit_of_activate hc (hi o) rfl, (hecho o).stop⟩⟩
  | answered hc ha ho =>
    rw [ha] at hw hi
    obtain ⟨ss, hs, hecho⟩ := ho.echo (hw ▸ he)
    refine ⟨ss, hw ▸ hs, fun o => ⟨_, Directive.visit_of_activate hc (hi o) rfl, ?_⟩⟩
    rw [← List.append_nil ss]
    exact (hecho o).followed fun o' => .silent rfl

/-- A visit of an output that takes every text leaves it so. -/
theorem Visit.isEndless {i : DirectiveInstance} {index : Nat} {tag : LexedTag}
    {state state' : DirectiveState} {r last : Run} {trace : List Moment}
    {result : Except EvalError Flow} (h : Visit i index tag state r trace result state' last)
    (he : r.output.IsEndless) : last.output.IsEndless := by
  obtain ⟨ss, hs, -⟩ := h.echo he
  exact hs ▸ he.receive ss

/-- A visit and what follows it do the same in every output if what follows it does. -/
theorem Visit.echo_goOn {i : DirectiveInstance} {index : Nat} {tag : LexedTag}
    {state state' : DirectiveState} {r between last : Run} {trace : List Moment} {flow : Flow}
    {result : Except EvalError Unit} (h : Visit i index tag state r trace (.ok flow) state' between)
    (ht : i.tags[index]? = some tag) (he : r.output.IsEndless)
    (hn : ∃ ss, last.output = between.output.receive ss ∧
      ∀ o, Echo o ss result last (i.goOn index state' flow (between.into o))) :
    ∃ ss, last.output = r.output.receive ss ∧
      ∀ o, Echo o ss result last ((Stretch.tags i state index).render (r.into o)) := by
  obtain ⟨ss, hs, hecho⟩ := h.echo he
  obtain ⟨ss', hs', hecho'⟩ := hn
  refine ⟨ss ++ ss', ?_, fun o => ?_⟩
  · rw [hs', hs, Output.receive_append (he.accepts ss)]
  · obtain ⟨outcome, hvisit, ho⟩ := hecho o
    rw [Stretch.render_visit ht hvisit]
    exact ho.followed hecho'

/-- Every stretch of a rendering does the same in every output, up to the first text that is
refused. -/
theorem Course.echo {s : Stretch} {r last : Run} {trace : List Moment}
    {result : Except EvalError Unit} (h : Course s r trace result last)
    (he : r.output.IsEndless) :
    ∃ ss, last.output = r.output.receive ss ∧
      ∀ o, Echo o ss result last (s.render (r.into o)) := by
  induction h with
  | @text s _ r _ _ _ ho =>
    obtain ⟨ss, hs, hecho⟩ := ho.echo he
    refine ⟨ss, hs, fun o => ?_⟩
    dsimp only [Stretch.render, Node.render]
    rw [Run.putText_eq]
    exact hecho o
  | @directive i r last trace result h ih =>
    rw [Run.output_enter] at ih
    obtain ⟨ss, hs, hecho⟩ := ih he
    refine ⟨ss, Run.output_leave.trans hs, fun o => Echo.directive ?_⟩
    rw [Run.enter_into]
    exact hecho o
  | done r => exact ⟨[], rfl, fun o => .silent rfl⟩
  | stopped _ ih =>
    obtain ⟨ss, hs, hecho⟩ := ih he
    refine ⟨ss, hs, fun o => ?_⟩
    rw [Stretch.render_cons]
    exact (hecho o).stop
  | next _ _ ih ih' =>
    obtain ⟨ss, hs, hecho⟩ := ih he
    obtain ⟨ss', hs', hecho'⟩ := ih' (hs ▸ he.receive ss)
    refine ⟨ss ++ ss', ?_, fun o => ?_⟩
    · rw [hs', hs, Output.receive_append (he.accepts ss)]
    · rw [Stretch.render_cons]
      exact (hecho o).followed hecho'
  | past r ht =>
    refine ⟨[], rfl, fun o => .silent ?_⟩
    simp only [Stretch.render_tags, ht]
  | failed ht hv =>
    obtain ⟨ss, hs, hecho⟩ := hv.echo he
    refine ⟨ss, hs, fun o => ?_⟩
    obtain ⟨outcome, hvisit, ho⟩ := hecho o
    rw [Stretch.render_visit ht hvisit]
    exact ho.stop
  | ended ht hv => exact hv.echo_goOn ht he ⟨[], rfl, fun o => .silent rfl⟩
  | restarted ht hv _ ih => exact hv.echo_goOn ht he (ih (hv.isEndless he))
  | skipped ht hv _ ih => exact hv.echo_goOn ht he (ih (hv.isEndless he))
  | bare ht hv hb =>
    refine hv.echo_goOn ht he ⟨[], rfl, fun o => .silent ?_⟩
    simp only [DirectiveInstance.goOn, hb]
  | broken ht hv hb _ ih =>
    obtain ⟨ss, hs, hecho⟩ := ih (hv.isEndless he)
    refine hv.echo_goOn ht he ⟨ss, hs, fun o => ?_⟩
    simp only [DirectiveInstance.goOn, hb]
    exact (hecho o).stop
  | entered ht hv hb h _ ih ih' =>
    have hbetween := hv.isEndless he
    obtain ⟨ss, hs, hecho⟩ := ih hbetween
    obtain ⟨ss', hs', hecho'⟩ := ih' (hs ▸ hbetween.receive ss)
    refine hv.echo_goOn ht he ⟨ss ++ ss', ?_, fun o => ?_⟩
    · rw [hs', hs, Output.receive_append (hbetween.accepts ss)]
    · simp only [DirectiveInstance.goOn, hb]
      exact (hecho o).followed hecho'

namespace Output

variable {o : Output} {ss : List String} {limit : Nat}

@[simp] theorem byteCount_cons (s : String) (ss : List String) :
    byteCount (s :: ss) = s.utf8ByteSize + byteCount ss := rfl

@[simp] theorem byteCount_append (ss ss' : List String) :
    byteCount (ss ++ ss') = byteCount ss + byteCount ss' := by
  induction ss with
  | nil => exact (Nat.zero_add _).symm
  | cons s ss ih => rw [List.cons_append, byteCount_cons, byteCount_cons, ih, Nat.add_assoc]

/-- The order of texts does not matter to their bytes. -/
theorem byteCount_reverse (ss : List String) : byteCount ss.reverse = byteCount ss := by
  induction ss with
  | nil => rfl
  | cons s ss ih =>
    rw [List.reverse_cons, byteCount_append, ih, byteCount_cons, byteCount_cons, Nat.add_comm]
    rfl

/-- The bytes of texts written one after another. -/
theorem utf8ByteSize_join (ss : List String) :
    (String.join ss).utf8ByteSize = byteCount ss := by
  induction ss with
  | nil => rfl
  | cons s ss ih => rw [String.join_cons, String.utf8ByteSize_append, ih, byteCount_cons]

/-- The bytes that were taken. -/
theorem utf8ByteSize_written (o : Output) : o.written.utf8ByteSize = byteCount o.texts := by
  rw [written, utf8ByteSize_join, byteCount_reverse]

/-- A limit holds for texts together as for each of them. -/
theorem accepts_iff_of_limit (ht : o.takes = (limited limit).takes)
    (ho : o.written.utf8ByteSize ≤ limit) :
    o.accepts ss = true ↔ o.written.utf8ByteSize + (String.join ss).utf8ByteSize ≤ limit := by
  induction ss generalizing o with
  | nil => simpa [String.join] using ho
  | cons s ss ih =>
    have hf : o.fits s = true ↔ o.written.utf8ByteSize + s.utf8ByteSize ≤ limit := by
      rw [fits, ht, utf8ByteSize_written]
      exact decide_eq_true_iff
    have hs : (o.append s).written.utf8ByteSize = o.written.utf8ByteSize + s.utf8ByteSize := by
      rw [utf8ByteSize_written, utf8ByteSize_written, append, byteCount_cons, Nat.add_comm]
    rw [accepts_cons, Bool.and_eq_true, hf, String.join_cons, String.utf8ByteSize_append]
    constructor
    · rintro ⟨hfirst, hrest⟩
      rw [ih (o := o.append s) ht (hs ▸ hfirst), hs] at hrest
      omega
    · intro h
      have hfirst : o.written.utf8ByteSize + s.utf8ByteSize ≤ limit := by omega
      refine ⟨hfirst, ?_⟩
      rw [ih (o := o.append s) ht (hs ▸ hfirst), hs]
      omega

/-- What an output with a limit takes stays below the limit. -/
theorem utf8ByteSize_receive_le (ht : o.takes = (limited limit).takes)
    (ho : o.written.utf8ByteSize ≤ limit) : (o.receive ss).written.utf8ByteSize ≤ limit := by
  induction ss generalizing o with
  | nil => exact ho
  | cons s ss ih =>
    rw [receive_cons]
    split
    · next hf =>
      refine ih ht ?_
      rw [fits, ht] at hf
      rw [utf8ByteSize_written, append, byteCount_cons, Nat.add_comm]
      exact of_decide_eq_true hf
    · exact ho

/-- Texts that are all taken are what was written to an output that had nothing. -/
theorem texts_reverse_receive (ho : o.texts = []) (h : o.accepts ss = true) :
    (o.receive ss).texts.reverse = ss := by
  rw [texts_receive h, ho, List.append_nil, List.reverse_reverse]

theorem accepts_limited_iff :
    (limited limit).accepts ss = true ↔ (String.join ss).utf8ByteSize ≤ limit := by
  have hw : (limited limit).written.utf8ByteSize = 0 := rfl
  rw [accepts_iff_of_limit rfl (Nat.zero_le limit), hw, Nat.zero_add]

/-- An output with a limit stops before the first text that would go beyond it. -/
theorem exists_refused_of_limited (h : (limited limit).accepts ss = false) :
    ∃ refused after, ss = ((limited limit).receive ss).texts.reverse ++ refused :: after ∧
      limit < ((limited limit).receive ss).written.utf8ByteSize + refused.utf8ByteSize := by
  obtain ⟨before, refused, after, hss, ht, hf⟩ := exists_refused h
  refine ⟨refused, after, ?_, ?_⟩
  · rw [ht, limited, List.append_nil, List.reverse_reverse]
    exact hss
  · rw [fits, takes_receive] at hf
    rw [utf8ByteSize_written]
    exact Nat.not_le.mp (of_decide_eq_false hf)

end Output

namespace Template

/-- An evaluation into an output with a limit comes to the same as one into an output that takes
everything, if that writes no more bytes than the limit. If it writes more, the evaluation ends with
the refusal of the first text that would go beyond the limit, whatever is ignored. It then has
written the texts before that one, so a beginning of the whole, and nothing after it. In both cases
there are as many frames as before. -/
theorem limited_of_evaluate (t : Template) (c : Context) (host : Host) (limit : Nat) :
    let full := t.evaluate ⟨c, host, .unlimited⟩
    let cut := t.evaluate ⟨c, host, .limited limit⟩
    (full.2.output.written.utf8ByteSize ≤ limit →
        cut.1 = full.1 ∧ cut.2.output.written = full.2.output.written ∧
          cut.2.context = full.2.context ∧ cut.2.host = full.2.host) ∧
      (limit < full.2.output.written.utf8ByteSize →
        cut.1 = .error (.evaluation .write) ∧
          (∃ rest, full.2.output.written = cut.2.output.written ++ rest) ∧
          cut.2.output.written.utf8ByteSize ≤ limit ∧
          ∃ refused after,
            full.2.output.texts.reverse = cut.2.output.texts.reverse ++ refused :: after ∧
            limit < cut.2.output.written.utf8ByteSize + refused.utf8ByteSize) ∧
      cut.2.context.depth = c.depth ∧ full.2.context.depth = c.depth := by
  intro full cut
  obtain ⟨trace, result, last, hc⟩ := t.exists_course ⟨c, host, .unlimited⟩
  obtain ⟨trace', result', last', hc'⟩ := t.exists_course ⟨c, host, .limited limit⟩
  have hfull : full = (result.mapError .ofEval, last) := evaluate_eq_of_course hc
  have hcut : cut = (result'.mapError .ofEval, last') := evaluate_eq_of_course hc'
  obtain ⟨ss, hs, hecho⟩ := hc.echo Output.isEndless_unlimited
  have he : Echo (.limited limit) ss result last (result', last') :=
    hc'.render_eq ▸ hecho (.limited limit)
  have htexts : last.output.texts.reverse = ss := by
    rw [hs]
    exact Output.texts_reverse_receive rfl (Output.isEndless_unlimited.accepts ss)
  have hwritten : last.output.written = String.join ss := congrArg String.join htexts
  rw [hfull, hcut]
  dsimp only
  refine ⟨fun hle => ?_, fun hlt => ?_, ?_, ?_⟩
  · rw [hwritten] at hle
    have ha := Output.accepts_limited_iff.mpr hle
    have hsame := he.whole ha
    cases hsame
    exact ⟨rfl, hwritten ▸ congrArg String.join (Output.texts_reverse_receive rfl ha), rfl, rfl⟩
  · rw [hwritten] at hlt
    have ha : (Output.limited limit).accepts ss = false := by
      rw [← Bool.not_eq_true, Output.accepts_limited_iff]
      exact Nat.not_le_of_lt hlt
    obtain ⟨hr, ho⟩ := he.cut ha
    dsimp only at hr ho
    obtain ⟨refused, after, hss, hover⟩ := Output.exists_refused_of_limited ha
    rw [← ho] at hss hover
    have hle : last'.output.written.utf8ByteSize ≤ limit := by
      rw [ho]
      exact Output.utf8ByteSize_receive_le rfl (Nat.zero_le limit)
    refine ⟨hr ▸ rfl, ⟨String.join (refused :: after), ?_⟩, hle, refused, after, ?_, hover⟩
    · rw [hwritten, hss, String.join_append]
      rfl
    · rw [htexts, ← hss]
  · rw [Context.depth, Context.depth, hc'.sameBelow.outer]
  · rw [Context.depth, Context.depth, hc.sameBelow.outer]

/-- Whether a forest is a text and a quoted text. -/
def isTextAndQuoted : Forest → Bool
  | [.text "ab" 0, .directive (.standard .interpolation) 2
      [⟨_, [.expression (.literal (.text "cd"))], _⟩] []] => true
  | _ => false

/-- The law at a text and an expression, of which the first stays below the limit and the second
goes beyond it, where errors are ignored; and at a limit that is just reached. -/
theorem limited_of_evaluate_ignoring :
    ∃ d t, Dialect.standard = .ok d ∧ compile d "ab\x7b'cd'\x7d" = .ok t ∧
      let c : Context := ⟨d, .empty, [], none, ⟨true, false, false⟩, 0⟩
      let cut := t.evaluate ⟨c, .fresh, .limited 3⟩
      (t.evaluate ⟨c, .fresh, .unlimited⟩).2.output.written = "abcd" ∧
        cut.1 = .error (.evaluation .write) ∧
        (∃ rest, "abcd" = cut.2.output.written ++ rest) ∧
        cut.2.output.written.utf8ByteSize ≤ 3 ∧ cut.2.context.depth = 1 ∧
        (t.evaluate ⟨c, .fresh, .limited 4⟩).2.output.written = "abcd" := by
  have hcheck : (Dialect.standard.toOption.any fun d =>
      (compile d "ab\x7b'cd'\x7d").toOption.any fun t =>
        isTextAndQuoted t.forest) = true := by decide +kernel
  obtain ⟨d, t, hd, ht, hshape⟩ := exists_compile hcheck
  refine ⟨d, t, hd, ht, ?_⟩
  intro c cut
  have hfull : (t.evaluate ⟨c, .fresh, .unlimited⟩).2.output.written = "abcd" := by
    unfold isTextAndQuoted at hshape
    split at hshape
    · next shape place hf =>
      let r : Run := ⟨c, .fresh, .unlimited⟩
      let tag : LexedTag := ⟨shape, [.expression (.literal (.text "cd"))], place⟩
      let i : DirectiveInstance := ⟨.standard .interpolation, 2, [tag], []⟩
      have hforest : t.forest = [.text "ab" 0, i.node] := hf
      have hshown : r.shown "ab" = "ab" := by
        unfold Run.shown
        split <;> rfl
      let r' : Run := r.into (r.output.append "ab")
      obtain ⟨trace, htext⟩ : ∃ trace, Offer (some (r.shown "ab")) r trace (.ok ()) r' := by
        rw [hshown]
        exact ⟨_, .taken rfl rfl⟩
      have ha : i.directive.activate 0 tag .initial r' =
          (.ok ⟨.terminate, some "cd"⟩, .initial, r') := rfl
      have hi : Course (.tags i .initial 0) (r'.enter i.tags) _ (.ok ()) _ :=
        .ended rfl (.answered rfl ha (.taken rfl rfl))
      have hc : Course (.nodes [.text "ab" 0, i.node]) r _ (.ok ()) _ :=
        .next (.text htext) (.next (.directive hi) (.done _))
      rw [← hforest] at hc
      rw [evaluate_eq_of_course hc]
      rfl
    · cases hshape
  obtain ⟨-, hcut, hdepth, -⟩ := limited_of_evaluate t c .fresh 3
  obtain ⟨hwhole, -⟩ := limited_of_evaluate t c .fresh 4
  rw [hfull] at hcut hwhole
  obtain ⟨herror, hbegins, hsize, -⟩ := hcut (by decide)
  exact ⟨hfull, herror, hbegins, hsize, hdepth, (hwhole (by decide)).2.1⟩

end Template

end TagTemplate
