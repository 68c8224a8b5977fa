import TagTemplate.Proofs.Rendering.Course

/-!
# What a course tells

The moments of a course tell all that changes between the runs at its two ends, but for the
frames: each moment finds the host and the output as the moment before it left them. So what holds
of every moment holds of whole courses; nothing that was written is ever taken back.
-/

namespace TagTemplate

/-- Two runs that differ at most in the frames. -/
structure Run.Alike (r r' : Run) : Prop where
  /-- The host remembers the same. -/
  host : r'.host = r.host
  /-- The same was written. -/
  output : r'.output = r.output
  /-- The same flag cancels. -/
  flag : r'.context.flag = r.context.flag

namespace Run.Alike

variable {r r' r'' : Run}

/-- A run is like itself. -/
theorem refl (r : Run) : r.Alike r := ⟨rfl, rfl, rfl⟩

/-- Runs that are like a third are alike. -/
theorem trans (h : r.Alike r') (h' : r'.Alike r'') : r.Alike r'' :=
  ⟨h'.host.trans h.host, h'.output.trans h.output, h'.flag.trans h.flag⟩

/-- Inside a directive the run is like the one before. -/
theorem enter (tags : List LexedTag) (r : Run) : r.Alike (r.enter tags) :=
  ⟨host_enter, output_enter, flag_enter⟩

/-- After a directive the run is like the last one inside. -/
theorem leave (tags : List LexedTag) (r : Run) : r.Alike (r.leave tags) :=
  ⟨host_leave, output_leave, flag_leave⟩

/-- Of runs that are alike both are cancelled or neither is. -/
theorem isCancelled_eq (h : r.Alike r') : r'.isCancelled = r.isCancelled := by
  simp only [isCancelled, Context.isCancelled, h.host, h.flag]

end Run.Alike

/-- The run after a moment. -/
def Moment.after (m : Moment) : Run :=
  match m.happening with
  | .activation i index tag state => (i.directive.activate index tag state m.run).2.2
  | .write s =>
    if m.run.output.fits s then { m.run with output := m.run.output.append s } else m.run
  | .node _ | .tag _ _ | .text _ => m.run

namespace Moment

variable {i : DirectiveInstance} {index : Nat} {tag : LexedTag} {state : DirectiveState} {r : Run}
  {s : String}

@[simp] theorem after_activation :
    (mk (.activation i index tag state) r).after = (i.directive.activate index tag state r).2.2 :=
  rfl

theorem after_write (h : r.output.fits s = true) :
    (mk (.write s) r).after = { r with output := r.output.append s } :=
  if_pos h

theorem after_write_of_refused (h : r.output.fits s = false) : (mk (.write s) r).after = r :=
  if_neg (ne_true_of_eq_false h)

/-- What was written before a moment stays written. -/
theorem texts_suffix (m : Moment) : m.run.output.texts <:+ m.after.output.texts := by
  unfold after
  split
  · next i index tag state _ =>
    have ho := Directive.output_activate i.directive index tag state m.run
    exact ho.symm ▸ List.suffix_refl _
  · split
    · exact List.suffix_cons _ _
    · exact List.suffix_refl _
  all_goals exact List.suffix_refl _

end Moment

/-- A trace tells all that changes from one run to another but for the frames: each moment is in a
run like the one that the moment before it led to. -/
inductive Tells : Run → List Moment → Run → Prop
  /-- Nothing has changed. -/
  | nil {r last : Run} (h : r.Alike last) : Tells r [] last
  /-- What a moment leads to, and what follows. -/
  | cons {r last : Run} {m : Moment} {trace : List Moment} (h : r.Alike m.run)
    (ht : Tells m.after trace last) : Tells r (m :: trace) last

namespace Tells

variable {r r' last last' : Run} {trace trace' : List Moment}

/-- What is told from a run is told from every run like it. -/
theorem of_alike (h : Tells r' trace last) (hr : r.Alike r') : Tells r trace last := by
  cases h with
  | nil h => exact .nil (hr.trans h)
  | cons h ht => exact .cons (hr.trans h) ht

/-- What is told up to a run and what is told from there are told together. -/
theorem append {between : Run} (h : Tells r trace between) (h' : Tells between trace' last) :
    Tells r (trace ++ trace') last := by
  induction h with
  | nil hr => exact h'.of_alike hr
  | cons hr _ ih => exact .cons hr (ih h')

/-- What is told up to a run is told up to every run like it. -/
theorem alike_last (h : Tells r trace last) (hl : last.Alike last') : Tells r trace last' := by
  have h := h.append (.nil hl)
  rwa [List.append_nil] at h

/-- What was written before stays written. -/
theorem texts_suffix (h : Tells r trace last) : r.output.texts <:+ last.output.texts := by
  induction h with
  | nil h => exact h.output.symm ▸ List.suffix_refl _
  | cons h _ ih =>
    rw [← h.output]
    exact (Moment.texts_suffix _).trans ih

end Tells

/-- The way to a text and what comes of it are told. -/
theorem Offer.tells {emit : Option String} {r last : Run} {trace : List Moment}
    {result : Except EvalError Unit} (h : Offer emit r trace result last) : Tells r trace last := by
  cases h with
  | nothing => exact .nil (.refl r)
  | cancelled => exact .cons (.refl r) (.nil (.refl r))
  | refused _ hf =>
    refine .cons (.refl r) (.cons (.refl r) ?_)
    rw [Moment.after_write_of_refused hf]
    exact .nil (.refl r)
  | taken _ hf =>
    refine .cons (.refl r) (.cons (.refl r) ?_)
    rw [Moment.after_write hf]
    exact .nil (.refl _)

/-- A visit is told. -/
theorem Visit.tells {i : DirectiveInstance} {index : Nat} {tag : LexedTag}
    {state state' : DirectiveState} {r last : Run} {trace : List Moment}
    {result : Except EvalError Flow} (h : Visit i index tag state r trace result state' last) :
    Tells r trace last := by
  cases h with
  | cancelled => exact .cons (.refl r) (.nil (.refl r))
  | failed _ ha =>
    refine .cons (.refl r) (.cons (.refl r) ?_)
    rw [Moment.after_activation, ha]
    exact .nil (.refl _)
  | unwritten _ ha ho =>
    refine .cons (.refl r) (.cons (.refl r) ?_)
    rw [Moment.after_activation, ha]
    exact ho.tells
  | answered _ ha ho =>
    refine .cons (.refl r) (.cons (.refl r) ?_)
    rw [Moment.after_activation, ha]
    exact ho.tells

/-- Every course is told. -/
theorem Course.tells {s : Stretch} {r last : Run} {trace : List Moment}
    {result : Except EvalError Unit} (h : Course s r trace result last) : Tells r trace last := by
  induction h with
  | text ho => exact .cons (.refl _) ho.tells
  | @directive i r last trace result _ ih =>
    exact .cons (.refl _) ((ih.of_alike (.enter i.tags r)).alike_last (.leave i.tags last))
  | done r => exact .nil (.refl r)
  | stopped _ ih => exact ih
  | next _ _ ih ih' => exact ih.append ih'
  | past r _ => exact .nil (.refl r)
  | failed _ hv => exact hv.tells
  | ended _ hv => exact hv.tells
  | restarted _ hv _ ih => exact hv.tells.append ih
  | skipped _ hv _ ih => exact hv.tells.append ih
  | bare _ hv _ => exact hv.tells
  | broken _ hv _ _ ih => exact hv.tells.append ih
  | entered _ hv _ _ _ ih ih' => exact hv.tells.append (ih.append ih')

end TagTemplate
