import TagTemplate.Proofs.Rendering.Displaced

/-!
# Renderings in a row

Nodes in a row are rendered one part after the other. Where blanks are kept and every text is taken,
a text may be cut in two: that changes how the output is cut into texts, but nothing else.
-/

namespace TagTemplate

/-- Two parts of a rendering come to the same, but for how the output is cut into texts. -/
structure Alike {ε α : Type} (x y : Except ε α × Run) : Prop where
  /-- They have the same result. -/
  result : x.1 = y.1
  /-- They leave the same context. -/
  context : x.2.context = y.2.context
  /-- The host remembers the same. -/
  host : x.2.host = y.2.host
  /-- The same was written. -/
  written : x.2.output.written = y.2.output.written

namespace Alike

variable {ε α β : Type} {x y : Except ε α × Run}

theorem refl (x : Except ε α × Run) : Alike x x := ⟨rfl, rfl, rfl, rfl⟩

/-- The same change of the results keeps two parts alike. -/
theorem mapResult {δ : Type} (h : Alike x y) (f : Except ε α → Except δ β) :
    Alike (f x.1, x.2) (f y.1, y.2) :=
  ⟨congrArg f h.result, h.context, h.host, h.written⟩

/-- What follows the same part may differ in the same way. -/
theorem andThen {α β : Type} {outcome : Except EvalError α × Run}
    {next next' : α → Run → Except EvalError β × Run}
    (h : ∀ a, outcome.1 = .ok a → Alike (next a outcome.2) (next' a outcome.2)) :
    Alike (TagTemplate.andThen outcome next) (TagTemplate.andThen outcome next') := by
  obtain ⟨result, r⟩ := outcome
  cases result with
  | error error => exact refl _
  | ok a => exact h a rfl

end Alike

namespace Output

variable {o : Output} {s : String} {ss : List String}

theorem written_append (o : Output) (s : String) : (o.append s).written = o.written ++ s := by
  rw [written, append, List.reverse_cons, String.join_append]
  simp [written, String.join]

/-- What is written then stands after what was written before. -/
theorem IsEndless.written_receive (h : o.IsEndless) (ss : List String) :
    (o.receive ss).written = o.written ++ String.join ss := by
  rw [written, texts_receive (h.accepts ss), List.reverse_append, List.reverse_reverse,
    String.join_append]
  rfl

/-- A text that is taken leaves an output that takes every text. -/
theorem IsEndless.append (h : o.IsEndless) (s : String) : (o.append s).IsEndless := h

end Output

namespace Run

variable {r : Run} {s : String}

/-- A text is put where every text is taken, unless the evaluation is cancelled. -/
theorem put_of_isEndless (hc : r.isCancelled = false) (he : r.output.IsEndless) (s : String) :
    put s r = (.ok (), r.into (r.output.append s)) := by
  have hf : r.output.fits s = true := he r.output.texts s
  rw [put, if_neg (ne_true_of_eq_false hc), if_pos hf]
  rfl

end Run

namespace Stretch

/-- Nodes in a row are rendered one part after the other. -/
theorem render_append (f f' : Forest) (r : Run) :
    (nodes (f ++ f')).render r = andThen ((nodes f).render r) fun () => (nodes f').render := by
  induction f generalizing r with
  | nil => rfl
  | cons inner f ih =>
    rw [List.cons_append, render_cons, render_cons]
    rcases (node inner).render r with ⟨error | u, between⟩
    · rfl
    · exact ih between

/-- A stretch does the same in two outputs that take every text, in which the same was written. -/
theorem alike_render (s : Stretch) {r : Run} {o : Output} (he : r.output.IsEndless)
    (ho : o.IsEndless) (hw : r.output.written = o.written) :
    Alike (s.render r) (s.render (r.into o)) := by
  obtain ⟨trace, hc⟩ := s.exists_course r
  obtain ⟨ss, hs, hecho⟩ := hc.echo he
  rw [(hecho o).whole (ho.accepts ss)]
  refine ⟨rfl, rfl, rfl, ?_⟩
  rw [hs, he.written_receive, hw, ← ho.written_receive]
  rfl

variable {r : Run}

/-- A text may be cut in two, where blanks are kept and every text is taken. -/
theorem alike_render_cut (hk : r.context.dialect.collapsesBlanks = false)
    (he : r.output.IsEndless) (s s' : String) (position position' : Nat) (rest : Forest) :
    Alike ((nodes (.text (s ++ s') position :: rest)).render r)
      ((nodes (.text s position :: .text s' position' :: rest)).render r) := by
  have htext : ∀ (s : String) (position : Nat) (r' : Run),
      r'.context.dialect.collapsesBlanks = false →
        (node (.text s position)).render r' = Run.put s r' := by
    intro s position r' hk'
    dsimp only [render, Node.render]
    rw [Run.putText_eq, Run.shown_of_keeps hk']
  rw [render_cons, render_cons, htext _ _ r hk, htext _ _ r hk]
  cases hc : r.isCancelled with
  | true =>
    rw [Run.put, Run.put, if_pos hc, if_pos hc]
    exact .refl _
  | false =>
    rw [Run.put_of_isEndless hc he, Run.put_of_isEndless hc he]
    let cut : Run := r.into (r.output.append s)
    have hboth : (nodes (.text s' position' :: rest)).render cut =
        (nodes rest).render (r.into ((r.output.append s).append s')) := by
      rw [render_cons, htext _ _ cut hk, Run.put_of_isEndless (r := cut) hc (he.append s)]
      rfl
    dsimp only [andThen]
    rw [hboth]
    refine alike_render (nodes rest) (he.append _) ((he.append s).append s') ?_
    simp only [Run.output_into, Output.written_append, String.append_assoc]

/-- What two forests make up comes to what they come to one after the other, where blanks are kept
and every text is taken; only the place in an error of the second one is further on. -/
theorem alike_of_joins {n : Nat} {f f' whole : Forest} (h : Forest.Joins n f f' whole)
    (hk : r.context.dialect.collapsesBlanks = false) (he : r.output.IsEndless) :
    Alike ((nodes whole).render r)
      (andThen ((nodes f).render r) fun () r' =>
        (((nodes f').render r').1.mapError (EvalError.displaced n), ((nodes f').render r').2)) := by
  have hrow : (nodes (f ++ Forest.displaced n f')).render r =
      andThen ((nodes f).render r) fun () r' =>
        (((nodes f').render r').1.mapError (EvalError.displaced n), ((nodes f').render r').2) := by
    rw [render_append]
    exact congrArg (andThen _) (funext fun () => funext ((nodes f').render_displaced n))
  rw [← hrow]
  cases h with
  | apart => exact .refl _
  | merged f f' s s' position position' =>
    have hcut : f ++ [.text s position] ++ Forest.displaced n (.text s' position' :: f') =
        f ++ .text s position :: .text s' (position' + n) :: Forest.displaced n f' := by
      rw [List.append_assoc]
      rfl
    rw [hcut, render_append, render_append]
    refine .andThen fun () _ => ?_
    obtain ⟨trace, hc⟩ := (nodes f).exists_course r
    obtain ⟨ss, hs, -⟩ := hc.echo he
    refine alike_render_cut ?_ (hs ▸ he.receive ss) s s' position (position' + n) _
    rw [hc.sameBelow.dialect]
    exact hk

end Stretch

end TagTemplate
