import TagTemplate.Proofs.Forest.Growth
import TagTemplate.Proofs.Forest.Occurrences
import TagTemplate.Proofs.Result
import TagTemplate.Proofs.Tag.Filled
import TagTemplate.Template

/-!
# Compiled templates

A text is compiled in three steps, and each of them fails only for a fault of the text. In what
comes of it every directive is as the dialect requires, and every tag has a shape of the dialect,
with all of its slots filled.
-/

namespace TagTemplate

variable {d : Dialect}

namespace Growth

variable {g : Growth}

/-- A tag is refused for a fault of the text. -/
theorem ofText_of_takeTag {tag : LexedTag} {error : TemplateError}
    (h : g.takeTag d tag = .error error) : error.OfText := by
  unfold takeTag at h
  dsimp only at h
  split at h
  · split at h <;> cases h
    exact .parse _
  · split at h
    · cases h
    · split at h
      · cases h
        exact .parse _
      · split at h <;> cases h
        exact .parse _

/-- Units are refused for a fault of the text, if errors among them are. -/
theorem ofText_of_takeAll {units : List (Except TemplateError Lex)} {error : TemplateError}
    (hu : ∀ unit ∈ units, Lex.Sound d unit) (h : g.takeAll d units = .error error) :
    error.OfText := by
  induction units generalizing g with
  | nil => cases h
  | cons unit units ih =>
    have hrest : ∀ unit ∈ units, Lex.Sound d unit := fun u hm => hu u (List.mem_cons_of_mem _ hm)
    have hfirst := hu unit List.mem_cons_self
    unfold takeAll at h
    cases hfirst with
    | error he =>
      cases h
      exact he
    | text s position => exact ih hrest h
    | @tag tag _ =>
      cases ht : g.takeTag d tag with
      | error refusal =>
        simp only [take, ht] at h
        cases h
        exact ofText_of_takeTag ht
      | ok next =>
        simp only [take, ht] at h
        exact ih hrest h

end Growth

namespace Forest

variable {units : List (Except TemplateError Lex)}

/-- Units form no forest only for a fault of the text, if errors among them are such faults. -/
theorem ofText_of_ofUnits {error : TemplateError} (hu : ∀ unit ∈ units, Lex.Sound d unit)
    (h : ofUnits d units = .error error) : error.OfText := by
  unfold ofUnits at h
  split at h
  · next ht =>
    cases h
    exact Growth.ofText_of_takeAll hu ht
  · unfold Growth.finish at h
    split at h <;> cases h
    exact .parse _

/-- In a forest that sound units form, every directive is as the dialect requires and every tag
is filled. -/
theorem everywhere_of_ofUnits {forest : Forest} (hu : ∀ unit ∈ units, Lex.Sound d unit)
    (h : ofUnits d units = .ok forest) :
    forest.Everywhere fun directive position tags bodies =>
      d.Fits directive position tags bodies ∧ ∀ tag ∈ tags, tag.Filled d := by
  unfold ofUnits at h
  split at h
  · cases h
  · next last ht =>
    obtain ⟨hs, read, rfl, hread⟩ := (Growth.sound_empty d).takeAll ht
    unfold Growth.finish at h
    split at h <;> cases h
    next hstack =>
    have hr : Forest.units last.roots = read := by simpa [Growth.units, hstack] using hread
    refine everywhere_of_occurs fun i hi => ⟨hs.roots.of_occurs hi, fun tag ht => ?_⟩
    have hm : .tag tag ∈ read := hr ▸ tag_mem_units hi ht
    cases hu _ (List.mem_map_of_mem hm) with
    | tag hf => exact hf

end Forest

namespace Template

variable {source : String}

/-- A text is compiled by cutting it into tokens and gathering the units that these form. -/
theorem exists_tokens_of_compile {t : Template} (h : compile d source = .ok t) :
    ∃ tokens, Token.tokenize d.delimiters source = .ok tokens ∧ t.dialect = d ∧
      Forest.ofUnits d (Lex.ofTokens d tokens) = .ok t.forest := by
  unfold compile at h
  split at h
  · cases h
  · next tokens ht =>
    obtain ⟨forest, hf, rfl⟩ := map_eq_ok_iff.mp h
    exact ⟨tokens, ht, rfl, hf⟩

/-- What the units of a text form is what the text is compiled to. -/
theorem compile_of_tokens {tokens : List Token} {forest : Forest}
    (ht : Token.tokenize d.delimiters source = .ok tokens)
    (hf : Forest.ofUnits d (Lex.ofTokens d tokens) = .ok forest) :
    compile d source = .ok ⟨d, forest⟩ := by
  unfold compile
  rw [ht]
  dsimp only
  rw [hf]
  rfl

/-- A text is not compiled only for a fault of the text. -/
theorem ofText_of_compile {error : TemplateError} (h : compile d source = .error error) :
    error.OfText := by
  unfold compile at h
  split at h
  · cases h
    exact .parse _
  · next tokens ht =>
    cases hf : Forest.ofUnits d (Lex.ofTokens d tokens) with
    | error fault =>
      rw [hf] at h
      cases h
      exact Forest.ofText_of_ofUnits (Lex.sound_units _ tokens) hf
    | ok forest =>
      rw [hf] at h
      cases h

/-- In a template that was compiled every directive is as the dialect requires, and every tag is
filled. -/
theorem everywhere_of_compile {t : Template} (h : compile d source = .ok t) :
    t.forest.Everywhere fun directive position tags bodies =>
      d.Fits directive position tags bodies ∧ ∀ tag ∈ tags, tag.Filled d := by
  obtain ⟨tokens, -, -, hf⟩ := exists_tokens_of_compile h
  exact Forest.everywhere_of_ofUnits (Lex.sound_units _ tokens) hf

/-- If only standard directives are registered, there are no others in a template. -/
theorem standard_of_compile {t : Template} (h : compile d source = .ok t)
    (hd : ∀ r ∈ d.directives, r.directive ∈ Directive.allStandard) :
    t.forest.Everywhere fun directive _ _ _ => directive ∈ Directive.allStandard := by
  intro node hn
  refine (everywhere_of_compile h node hn).imp fun directive position tags bodies hf => ?_
  obtain ⟨r, hr, rfl, -⟩ := hf.1.registered
  exact hd r hr

/-- What can be computed of the template that a text is in the standard dialect. -/
theorem exists_compile {check : Template → Bool}
    (h : (Dialect.standard.toOption.any fun d => (compile d source).toOption.any check) = true) :
    ∃ d t, Dialect.standard = .ok d ∧ compile d source = .ok t ∧ check t = true := by
  obtain ⟨d, hd, h⟩ := exists_ok_of_any h
  obtain ⟨t, ht, h⟩ := exists_ok_of_any h
  exact ⟨d, t, hd, ht, h⟩

end Template

end TagTemplate
