import TagTemplate.Proofs.Dialect.Registered
import TagTemplate.Proofs.Rendering.Sequencing

/-!
# Templates in a row

A text that consists of two templates is a template, and it is evaluated as one after the other:
tags do not reach over the seam, runs of doubled delimiters fall apart at it in the same way, and two
texts that meet there are written as one. There is one exception. A numeral is read as far as it
goes, so a delimiter that can be a part of one does not close a tag straight after a numeral if a
digit follows.
-/

namespace TagTemplate

namespace Template

/-- A text ends with a tag that is closed straight after a numeral by a delimiter with which the
numeral would go on if a digit followed. -/
def RunsOn (d : Dialect) (source : String) : Prop :=
  ∃ tokens, Token.tokenize d.delimiters source = .ok tokens ∧
    Token.NumeralRunsOn d.delimiters tokens

/-- Evaluates a template and then, if that succeeded, another one, which stands `n` bytes further
on. -/
def evaluateBoth (t : Template) (n : Nat) (t' : Template) (r : Run) :
    Except TemplateError Unit × Run :=
  match t.evaluate r with
  | (.error error, r) => (.error error, r)
  | (.ok (), r) => ((t'.evaluate r).1.mapError (TemplateError.displaced n), (t'.evaluate r).2)

/-- A template is evaluated by rendering its nodes. -/
theorem evaluate_eq (t : Template) (r : Run) :
    t.evaluate r =
      (((Stretch.nodes t.forest).render r).1.mapError .ofEval,
        ((Stretch.nodes t.forest).render r).2) := by
  dsimp only [evaluate, Stretch.render]
  rcases Node.renderAll t.forest r with ⟨error | u, last⟩ <;> rfl

/-- Two templates are evaluated one after the other by rendering their nodes so. -/
theorem evaluateBoth_eq (t t' : Template) (n : Nat) (r : Run) :
    let outcome := andThen ((Stretch.nodes t.forest).render r) fun () r' =>
      (((Stretch.nodes t'.forest).render r').1.mapError (EvalError.displaced n),
        ((Stretch.nodes t'.forest).render r').2)
    t.evaluateBoth n t' r = (outcome.1.mapError .ofEval, outcome.2) := by
  unfold evaluateBoth
  rw [evaluate_eq]
  rcases (Stretch.nodes t.forest).render r with ⟨error | u, between⟩
  · rfl
  · dsimp only [andThen, Except.mapError]
    rw [evaluate_eq]
    rcases (Stretch.nodes t'.forest).render between with ⟨error | u, last⟩
    · dsimp only [Except.mapError]
      rw [TemplateError.ofEval_displaced]
    · rfl

variable {d : Dialect} {a b : String} {ta tb : Template}

/-- A text that consists of two templates is a template, and its nodes are what theirs make up. -/
theorem exists_joins_of_compile (hd : Dialect.isUnusable d.delimiters.closing = false)
    (ha : compile d a = .ok ta) (hb : compile d b = .ok tb)
    (hs : ¬(RunsOn d a ∧ Lexeme.BeginsWithDigit b.toList)) :
    ∃ whole, compile d (a ++ b) = .ok ⟨d, whole⟩ ∧
      Forest.Joins a.utf8ByteSize ta.forest tb.forest whole := by
  obtain ⟨tokens, ht, -, hf⟩ := exists_tokens_of_compile ha
  obtain ⟨tokens', ht', -, hf'⟩ := exists_tokens_of_compile hb
  obtain ⟨read, hu, hr⟩ := Forest.ofUnits_eq_ok_iff.mp hf
  obtain ⟨read', hu', hr'⟩ := Forest.ofUnits_eq_ok_iff.mp hf'
  have hsize : Text.byteLength a.toList = a.utf8ByteSize := by
    rw [← Text.utf8ByteSize_ofList, String.ofList_toList]
  -- the second text is scanned where it stands
  have hbehind : Token.scan d.delimiters none b.toList (0 + Text.byteLength a.toList) =
      .ok (tokens'.map (Token.displaced a.utf8ByteSize)) := by
    rw [hsize]
    exact Token.scan_displaced ht' a.utf8ByteSize
  have htokens : Token.tokenize d.delimiters (a ++ b) =
      .ok (seam Token.merge tokens (tokens'.map (Token.displaced a.utf8ByteSize))) := by
    rw [Token.tokenize, String.toList_append]
    exact Token.scan_append hd ht hbehind fun hn => hs ⟨⟨tokens, ht, hn.1⟩, hn.2⟩
  have hunits : Lex.ofTokens d (seam Token.merge tokens
      (tokens'.map (Token.displaced a.utf8ByteSize))) =
        (seam Lex.merge read (read'.map (Lex.displaced a.utf8ByteSize))).map .ok :=
    Lex.units_seam hu (Lex.units_displaced hu' a.utf8ByteSize)
  obtain ⟨whole, hj, hreaches⟩ := Forest.exists_joins_of_reaches hr hr' a.utf8ByteSize
  exact ⟨whole, compile_of_tokens htokens (Forest.ofUnits_eq_ok_iff.mpr ⟨_, hunits, hreaches⟩), hj⟩

/-- A template whose nodes are what those of two templates make up does what they do one after the
other, where blanks are kept and every text is taken. -/
theorem alike_evaluateBoth {t : Template} {n : Nat} {r : Run}
    (hj : Forest.Joins n ta.forest tb.forest t.forest)
    (hk : r.context.dialect.collapsesBlanks = false) (he : r.output.IsEndless) :
    Alike (t.evaluate r) (ta.evaluateBoth n tb r) := by
  rw [evaluate_eq, evaluateBoth_eq]
  exact (Stretch.alike_of_joins hj hk he).mapResult (Except.mapError TemplateError.ofEval)

/-- Concatenation is sequencing. In every dialect, two texts that are templates are one in a row,
unless a numeral at the end of the first one runs on into a digit with which the second one begins.
Where blanks are kept and every text is taken, its evaluation comes to what the evaluation of the
first and then, if that succeeded, of the second comes to: the same result, the same context, the
same host and the same text. Only the place in an error of the second one is further on, by the bytes
of the first text. -/
theorem sequencing_of_compile {draft : Dialect.Draft} {d : Dialect}
    (hd : Dialect.ofDraft draft = .ok d) {a b : String} {ta tb : Template}
    (ha : compile d a = .ok ta) (hb : compile d b = .ok tb)
    (hs : ¬(RunsOn d a ∧ Lexeme.BeginsWithDigit b.toList)) :
    ∃ t, compile d (a ++ b) = .ok t ∧
      ∀ r : Run, r.context.dialect.collapsesBlanks = false → r.output.IsEndless →
        Alike (t.evaluate r) (ta.evaluateBoth a.utf8ByteSize tb r) := by
  obtain ⟨-, -, hclosing⟩ := Dialect.delimiters_of_ofDraft hd
  obtain ⟨whole, ht, hj⟩ := exists_joins_of_compile hclosing ha hb hs
  exact ⟨⟨d, whole⟩, ht, fun r hk he => alike_evaluateBoth hj hk he⟩

/-- Whether a forest is a text, and another one a text and then the name x. -/
def areTextAndName : Forest → Forest → Bool
  | [.text "é\x7b" 0], [.text "2" 0, .directive (.standard .interpolation) 1
      [⟨_, [.expression (.identifier "x")], _⟩] []] => true
  | _, _ => false

/-- The law at two texts that meet, the first of which ends with a doubled delimiter and the second
of which begins with a digit, where names must have a value. -/
theorem sequencing_of_compile_failing :
    ∃ d ta tb t, Dialect.standard = .ok d ∧ compile d "é\x7b\x7b" = .ok ta ∧
      compile d "2\x7bx\x7d" = .ok tb ∧ compile d ("é\x7b\x7b" ++ "2\x7bx\x7d") = .ok t ∧
      let r : Run := ⟨⟨d, .empty, [], none, ⟨false, true, false⟩, 0⟩, .fresh, .unlimited⟩
      (t.evaluate r).1 =
          .error (.evaluation (.directive "Interpolation" 5 (.undefinedIdentifier "x"))) ∧
        (t.evaluate r).2.output.written = "é\x7b2" := by
  have hcheck : (Dialect.standard.toOption.any fun d =>
      (compile d "é\x7b\x7b").toOption.any fun ta =>
        (compile d "2\x7bx\x7d").toOption.any fun tb =>
          !d.collapsesBlanks && d.delimiters.closing == '\x7d' &&
            areTextAndName ta.forest tb.forest) = true := by decide +kernel
  obtain ⟨d, hd, hcheck⟩ := exists_ok_of_any hcheck
  obtain ⟨ta, ha, hcheck⟩ := exists_ok_of_any hcheck
  obtain ⟨tb, hb, hcheck⟩ := exists_ok_of_any hcheck
  rw [Bool.and_eq_true, Bool.and_eq_true, Bool.not_eq_true', beq_iff_eq] at hcheck
  obtain ⟨⟨hk, hclosing⟩, hshape⟩ := hcheck
  have hdraft : Dialect.ofDraft (.ofSettings "standard"
      [.standardOperators, .standardDirectives]) = .ok d := hd
  have hs : ¬(RunsOn d "é\x7b\x7b" ∧ Lexeme.BeginsWithDigit "2\x7bx\x7d".toList) := by
    rintro ⟨⟨tokens, -, hruns⟩, -⟩
    cases hruns with
    | point hc => exact absurd (hclosing.symm.trans hc) (by decide)
    | sign hc =>
      rw [hclosing] at hc
      exact absurd hc (by decide)
  obtain ⟨t, ht, halike⟩ := sequencing_of_compile hdraft ha hb hs
  refine ⟨d, ta, tb, t, hd, ha, hb, ht, ?_⟩
  intro r
  have hr := halike r hk Output.isEndless_unlimited
  rw [hr.result, hr.written]
  unfold areTextAndName at hshape
  split at hshape
  · next shape place hfa hfb =>
    let r' : Run := r.into (r.output.append "é\x7b")
    let r'' : Run := r'.into (r'.output.append "2")
    let tag : LexedTag := ⟨shape, [.expression (.identifier "x")], place⟩
    let i : DirectiveInstance := ⟨.standard .interpolation, 1, [tag], []⟩
    have hforest : tb.forest = [.text "2" 0, i.node] := hfb
    obtain ⟨trace, htext⟩ : ∃ trace, Course (.node (.text "é\x7b" 0)) r trace (.ok ()) r' :=
      exists_course_of_text hk rfl rfl 0
    obtain ⟨trace', htext'⟩ : ∃ trace, Course (.node (.text "2" 0)) r' trace (.ok ()) r'' :=
      exists_course_of_text hk rfl rfl 0
    have hx : i.directive.activate 0 tag .initial r'' =
        (.error (.undefinedIdentifier "x"), .initial, r'') := rfl
    have hi : Course (.tags i .initial 0) (r''.enter i.tags) _
        (.error (.undefinedIdentifier "x")) r'' := .failed rfl (.failed rfl hx)
    have hca : Course (.nodes [.text "é\x7b" 0]) r _ (.ok ()) r' := .next htext (.done _)
    have hcb : Course (.nodes [.text "2" 0, i.node]) r' _
        (.error (.directive "Interpolation" 1 (.undefinedIdentifier "x"))) r'' :=
      .next htext' (.stopped (.directive hi))
    rw [← hfa] at hca
    rw [← hforest] at hcb
    rw [evaluateBoth, evaluate_eq_of_course hca]
    dsimp only [Except.mapError]
    rw [evaluate_eq_of_course hcb]
    exact ⟨rfl, rfl⟩
  · cases hshape

/-- Two templates are none in a row where a numeral runs on: the point that closes the tag of the
first one becomes a part of the numeral. -/
theorem compile_append_point :
    ∃ d ta tb, Dialect.ofSettings "points"
        [.delimiters ⟨'<', '.'⟩, .standardOperators, .standardDirectives] = .ok d ∧
      compile d "<1." = .ok ta ∧ compile d "5" = .ok tb ∧ ∀ t, compile d ("<1." ++ "5") ≠ .ok t := by
  have hcheck : ((Dialect.ofSettings "points"
      [.delimiters ⟨'<', '.'⟩, .standardOperators, .standardDirectives]).toOption.any fun d =>
      (compile d "<1.").toOption.any fun _ =>
        (compile d "5").toOption.any fun _ =>
          (compile d ("<1." ++ "5")).toOption.isNone) = true := by decide +kernel
  obtain ⟨d, hd, hcheck⟩ := exists_ok_of_any hcheck
  obtain ⟨ta, ha, hcheck⟩ := exists_ok_of_any hcheck
  obtain ⟨tb, hb, hcheck⟩ := exists_ok_of_any hcheck
  refine ⟨d, ta, tb, hd, ha, hb, fun t ht => ?_⟩
  rw [ht] at hcheck
  cases hcheck

end Template

end TagTemplate
