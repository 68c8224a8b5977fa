import TagTemplate.Proofs.Forest.Standard
import TagTemplate.Proofs.Template.Concatenation

/-!
# Templates for every text

Every text is what some template writes, as long as the standard directives are registered and
blanks are kept. A text may be written as it is, with every opening delimiter doubled, or as a quoted
string in a tag; pieces that are written in one way or the other may follow each other at will.
-/

namespace TagTemplate

/-- The quotes around strings. -/
inductive QuoteMark where
  /-- The single quote. -/
  | single
  /-- The double quote. -/
  | double

/-- The character of a quote. -/
def QuoteMark.char : QuoteMark → Char
  | .single => '\''
  | .double => '"'

namespace Lexeme

/-- A text with a backslash before every backslash and every such quote. -/
def escaped (quote : Char) (text : List Char) : List Char :=
  text.flatMap fun c => if c = quote ∨ c = '\\' then ['\\', c] else [c]

end Lexeme

namespace QuoteMark

end QuoteMark

/-- A way to write a string in a template. -/
inductive Encoding where
  /-- It is written as text. -/
  | plain (s : String)
  /-- It is written as a quoted string in a tag. -/
  | quoted (mark : QuoteMark) (s : String)

namespace Encoding

/-- The string. -/
def string : Encoding → String
  | plain s => s
  | quoted _ s => s

/-- What is written for the string. -/
def source (d : Delimiters) : Encoding → String
  | plain s => String.ofList (Lexeme.doubled d.opening s.toList)
  | quoted mark s =>
    String.ofList
      (d.opening :: mark.char :: (Lexeme.escaped mark.char s.toList ++ [mark.char, d.closing]))

end Encoding

namespace Token

variable {d : Delimiters}

end Token

namespace TagShape

variable {d : Dialect} {v : Value} {position : Nat}

end TagShape

/-- A tag that consists of a literal. -/
def LexedTag.literal (v : Value) (position : Nat) : LexedTag :=
  ⟨⟨[.expression]⟩, [.expression (.literal v)], position⟩

namespace Template

/-- A template writes a text, and nothing else comes of it, where blanks are kept and every text is
taken, unless the evaluation is cancelled. -/
def Writes (t : Template) (s : String) : Prop :=
  ∀ r : Run, r.context.dialect.collapsesBlanks = false → r.output.IsEndless →
    r.isCancelled = false → Alike (t.evaluate r) (.ok (), r.into (r.output.append s))

/-- A template leaves an output that takes every text. -/
theorem isEndless_evaluate (t : Template) {r : Run} (he : r.output.IsEndless) :
    (t.evaluate r).2.output.IsEndless := by
  obtain ⟨trace, result, last, hc⟩ := t.exists_course r
  obtain ⟨ss, hs, -⟩ := hc.echo he
  rw [evaluate_eq_of_course hc]
  exact hs ▸ he.receive ss

/-- A template whose nodes are what those of two templates make up writes one text after the
other. -/
theorem Writes.append {t ta tb : Template} {s s' : String} {n : Nat} (ha : ta.Writes s)
    (hb : tb.Writes s') (hj : Forest.Joins n ta.forest tb.forest t.forest) :
    t.Writes (s ++ s') := by
  intro r hk he hc
  have hboth := alike_evaluateBoth hj hk he
  have hfirst := ha r hk he hc
  have hbetween := ta.isEndless_evaluate he
  unfold evaluateBoth at hboth
  rcases hres : ta.evaluate r with ⟨result, between⟩
  rw [hres] at hboth hfirst hbetween
  obtain ⟨hr, hcontext, hhost, hwritten⟩ := hfirst
  dsimp only at hr hcontext hhost hwritten hbetween
  subst hr
  have hc' : between.isCancelled = false := by
    rw [Run.isCancelled, hcontext, hhost]
    exact hc
  have hsecond := hb between (hcontext ▸ hk) hbetween hc'
  dsimp only at hboth
  refine ⟨?_, ?_, ?_, ?_⟩
  · rw [hboth.result, hsecond.result]
    rfl
  · rw [hboth.context, hsecond.context]
    exact hcontext
  · rw [hboth.host, hsecond.host]
    exact hhost
  · rw [hboth.written, hsecond.written]
    simp only [Run.output_into, Output.written_append] at hwritten ⊢
    rw [hwritten, String.append_assoc]

variable {d : Dialect}

end Template

end TagTemplate
