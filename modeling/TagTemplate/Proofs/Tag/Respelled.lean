import TagTemplate.Proofs.Forest.Candidates
import TagTemplate.Proofs.Result
import TagTemplate.Proofs.Tag.Displaced

/-!
# Spellings of shapes

The keywords of a shape are written in some spelling. Which one that is decides nothing: pieces fit a
shape in every spelling or in none, with the same parts. If a dialect knew its shapes in other
spellings, the same tags would be read, with their shapes in those spellings.
-/

namespace TagTemplate

variable {nameCase : NameCase}

/-- Tags that differ only in the spelling of their shapes. -/
structure LexedTag.Respelled (nameCase : NameCase) (tag tag' : LexedTag) : Prop where
  /-- The shapes are the same. -/
  shape : tag.shape.same nameCase tag'.shape = true
  /-- The slots are filled with the same. -/
  parts : tag'.parts = tag.parts
  /-- They open at the same place. -/
  position : tag'.position = tag.position

/-- Units that differ only in the spelling of a shape. -/
inductive Lex.Respelled (nameCase : NameCase) : Lex → Lex → Prop
  /-- A text has no spellings. -/
  | text (s : String) (position : Nat) : Respelled nameCase (.text s position) (.text s position)
  /-- Tags that differ in spelling. -/
  | tag {tag tag' : LexedTag} (h : tag.Respelled nameCase tag') :
    Respelled nameCase (.tag tag) (.tag tag')

/-- Errors that differ only in the spelling of the tag that they quote. -/
inductive TemplateError.Respelled (nameCase : NameCase) : TemplateError → TemplateError → Prop
  /-- The same error. -/
  | refl (error : TemplateError) : Respelled nameCase error error
  /-- No directive starts with the tag. -/
  | unmatchedTag {shape shape' : TagShape} (h : shape.same nameCase shape' = true)
      (position : Nat) :
    Respelled nameCase (.parse (.unmatchedTag shape.markup position))
      (.parse (.unmatchedTag shape'.markup position))
  /-- The tag neither continues the open directive nor starts one. -/
  | unexpectedTag {shape shape' : TagShape} (h : shape.same nameCase shape' = true)
      (position : Nat) (inside : List String) :
    Respelled nameCase (.parse (.unexpectedTag shape.markup position inside))
      (.parse (.unexpectedTag shape'.markup position inside))

/-- The dialect, if it knew these shapes in place of its own. -/
def Dialect.withShapes (d : Dialect) (shapes : List TagShape) : Dialect := { d with shapes }

@[simp] theorem Dialect.shapes_withShapes (d : Dialect) (shapes : List TagShape) :
    (d.withShapes shapes).shapes = shapes := rfl

/-- Names that are the same are the same as the same names. -/
theorem NameCase.same_congr {a b : String} (h : nameCase.same a b = true) (c : String) :
    nameCase.same a c = nameCase.same b c :=
  Bool.eq_iff_iff.mpr ⟨same_trans (same_symm h), same_trans h⟩

namespace TagShape

variable {d : Dialect}

/-- Pieces fill slots in every spelling in the same way. -/
theorem fit_respelled {slots slots' : List TagSlot} (h : sameSlots d.nameCase slots slots' = true)
    (pieces : List TagPiece) : fit d slots pieces = fit d slots' pieces := by
  induction slots generalizing slots' pieces with
  | nil => cases slots' with
    | nil => rfl
    | cons => cases h
  | cons slot slots ih => cases slots' with
    | nil => cases h
    | cons slot' slots' =>
      rw [sameSlots_cons, Bool.and_eq_true] at h
      obtain ⟨hslot, hrest⟩ := h
      have hfit : fit d slots = fit d slots' := funext fun pieces => ih hrest pieces
      cases slot with
      | keyword word => cases slot' with
        | keyword word' =>
          have hword : ∀ other, d.nameCase.same word other = d.nameCase.same word' other :=
            NameCase.same_congr hslot
          unfold fit
          simp only [hword, hfit]
        | _ => cases hslot
      | name => cases slot' with
        | name =>
          unfold fit
          rw [hfit]
        | _ => cases hslot
      | expression => cases slot' with
        | expression =>
          unfold fit
          rw [hfit]
        | _ => cases hslot

/-- The first of the shapes is found if the pieces fit it, and else the first of the others. -/
theorem run_fitFirst_cons (shape : TagShape) (shapes : List TagShape) (pieces : List TagPiece)
    (noted : Option (Nat × ExprError)) :
    (fitFirst d pieces (shape :: shapes)).run noted =
      match (fit d shape.slots pieces).run noted with
      | (some parts, noted) => (some (shape, parts), noted)
      | (none, noted) => (fitFirst d pieces shapes).run noted := by
  rw [fitFirst, StateT.run_bind]
  rcases (fit d shape.slots pieces).run noted with ⟨_ | parts, noted⟩ <;> rfl

/-- The first shape that pieces fit is found in every spelling, and the same is noted. -/
theorem fitFirst_respelled {shapes shapes' : List TagShape}
    (h : AllSame d.nameCase shapes shapes') (pieces : List TagPiece)
    (noted : Option (Nat × ExprError)) :
    Option.Rel (fun found found' => found.1.same d.nameCase found'.1 = true ∧ found'.2 = found.2)
        ((fitFirst d pieces shapes).run noted).1 ((fitFirst d pieces shapes').run noted).1 ∧
      ((fitFirst d pieces shapes').run noted).2 = ((fitFirst d pieces shapes).run noted).2 := by
  -- Each shape that does not fit may leave a note, so the notes before it are arbitrary.
  induction h generalizing noted with
  | nil => exact ⟨.none, rfl⟩
  | cons hs _ ih =>
    rw [run_fitFirst_cons, run_fitFirst_cons, ← fit_respelled hs]
    rcases (fit d _ pieces).run noted with ⟨_ | parts, noted⟩
    · exact ih noted
    · exact ⟨.some ⟨hs, rfl⟩, rfl⟩

/-- Whether pieces fill slots does not depend on the shapes that are known. -/
theorem fit_withShapes (d : Dialect) (shapes : List TagShape) (slots : List TagSlot) :
    fit (d.withShapes shapes) slots = fit d slots := by
  induction slots with
  | nil => rfl
  | cons slot slots ih =>
    funext pieces
    cases slot <;> unfold fit <;> rw [ih] <;> rfl

/-- Which of given shapes pieces fit does not depend on the shapes that are known. -/
theorem fitFirst_withShapes (d : Dialect) (shapes : List TagShape) (pieces : List TagPiece)
    (tried : List TagShape) :
    fitFirst (d.withShapes shapes) pieces tried = fitFirst d pieces tried := by
  induction tried with
  | nil => rfl
  | cons shape tried ih => rw [fitFirst, fitFirst, fit_withShapes, ih]

end TagShape

variable {d : Dialect} {shapes : List TagShape}

/-- The dialect with its shapes in other spellings reads the same tag, or fails alike. -/
theorem LexedTag.ofPieces_withShapes (h : TagShape.AllSame d.nameCase d.shapes shapes)
    (position : Nat) (pieces : List TagPiece) :
    Parallel Eq (LexedTag.Respelled d.nameCase) (ofPieces d position pieces)
      (ofPieces (d.withShapes shapes) position pieces) := by
  obtain ⟨hfound, hnoted⟩ := TagShape.fitFirst_respelled h pieces none
  unfold ofPieces
  rw [TagShape.fitFirst_withShapes, Dialect.shapes_withShapes]
  generalize (TagShape.fitFirst d pieces d.shapes).run none = outcome at hfound hnoted ⊢
  generalize (TagShape.fitFirst d pieces shapes).run none = outcome' at hfound hnoted ⊢
  obtain ⟨found, noted⟩ := outcome
  obtain ⟨found', noted'⟩ := outcome'
  dsimp only at hfound hnoted
  subst hnoted
  cases hfound with
  | none => cases noted' <;> exact .error rfl
  | some hs => exact .ok ⟨hs.1, hs.2, rfl⟩

namespace Lex

/-- The pieces of a tag do not depend on the shapes that are known. -/
theorem interior_withShapes (symbols : List String) (opened : Nat) (tokens : List Token) :
    interior (d.withShapes shapes) symbols opened tokens = interior d symbols opened tokens := by
  induction tokens with
  | nil => rfl
  | cons token rest ih =>
    rw [interior, interior, ih]
    rfl

/-- The dialect with its shapes in other spellings reads the same unit first. -/
theorem first_withShapes (h : TagShape.AllSame d.nameCase d.shapes shapes)
    (symbols : List String) (token : Token) (rest : List Token) :
    Parallel Eq (Lex.Respelled d.nameCase) (first d symbols token rest).1
        (first (d.withShapes shapes) symbols token rest).1 ∧
      (first (d.withShapes shapes) symbols token rest).2 = (first d symbols token rest).2 := by
  unfold first
  rw [interior_withShapes]
  cases token.kind with
  | text => exact ⟨.ok (.text _ _), rfl⟩
  | tagStart =>
    rcases interior d symbols token.position rest with ⟨error | pieces, after⟩
    · exact ⟨.error rfl, rfl⟩
    · refine ⟨?_, rfl⟩
      have htag := LexedTag.ofPieces_withShapes h token.position pieces
      dsimp only
      generalize LexedTag.ofPieces d token.position pieces = tag at htag ⊢
      generalize LexedTag.ofPieces (d.withShapes shapes) token.position pieces = tag' at htag ⊢
      cases htag with
      | ok ht => exact .ok (.tag ht)
      | error he => exact .error he
  | _ => exact ⟨.error rfl, rfl⟩

/-- The dialect with its shapes in other spellings reads the same units. -/
theorem ofTokens_withShapes (h : TagShape.AllSame d.nameCase d.shapes shapes)
    (tokens : List Token) :
    List.Forall₂ (Parallel Eq (Lex.Respelled d.nameCase)) (ofTokens d tokens)
      (ofTokens (d.withShapes shapes) tokens) := by
  unfold ofTokens
  change List.Forall₂ _ _ (units (d.withShapes shapes) d.operators.symbols tokens)
  induction tokens using units.induct d d.operators.symbols with
  | case1 =>
    rw [units, units]
    exact .nil
  | case2 token rest _ ih =>
    obtain ⟨hunit, hafter⟩ := first_withShapes h d.operators.symbols token rest
    rw [units, units]
    refine .cons hunit ?_
    rw [hafter]
    exact ih

end Lex

end TagTemplate
