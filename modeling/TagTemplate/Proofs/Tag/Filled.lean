import Mathlib.Data.List.Forall2
import TagTemplate.Lex
import TagTemplate.Proofs.Forest.Candidates

/-!
# Filled tags

A tag that was read has one of the shapes of the dialect, and its parts fill the slots of that
shape one by one: a keyword stands in the slot of that keyword, a word that is no keyword in a
slot for a name, and an expression in a slot for an expression. Whatever else the units of a text
hold is an error in the text.
-/

namespace TagTemplate

variable {d : Dialect}

/-- What may stand in a slot. -/
inductive TagPart.Fills (d : Dialect) : TagSlot → TagPart → Prop
  /-- The keyword of the slot, as names are compared. -/
  | keyword {keyword word : String} (hw : d.nameCase.same keyword word = true) :
    Fills d (.keyword keyword) (.keyword word)
  /-- A word that is no keyword. -/
  | name {word : String} (hw : d.isKeyword word = false) : Fills d .name (.name word)
  /-- Any expression. -/
  | expression (e : Expr) : Fills d .expression (.expression e)

/-- What fills a slot fills every slot that is the same. -/
theorem TagPart.Fills.of_same {a b : TagSlot} {part : TagPart} (h : Fills d b part)
    (hs : a.same d.nameCase b = true) : Fills d a part := by
  cases h with
  | keyword hw => cases a with
    | keyword => exact .keyword (NameCase.same_trans hs hw)
    | _ => cases hs
  | name hw => cases a with
    | name => exact .name hw
    | _ => cases hs
  | expression e => cases a with
    | expression => exact .expression e
    | _ => cases hs

/-- A tag of one of the shapes of a dialect, every slot of which is filled. -/
structure LexedTag.Filled (d : Dialect) (tag : LexedTag) : Prop where
  /-- The dialect has the shape. -/
  known : tag.shape ∈ d.shapes
  /-- The parts fill the slots one by one. -/
  parts : List.Forall₂ (TagPart.Fills d) tag.shape.slots tag.parts

/-- The parts of a tag fill the slots of every shape that is the same. -/
theorem LexedTag.Filled.parts_of_same {tag : LexedTag} {shape : TagShape} (h : tag.Filled d)
    (hs : shape.same d.nameCase tag.shape = true) :
    List.Forall₂ (TagPart.Fills d) shape.slots tag.parts := by
  have hp := h.parts
  unfold TagShape.same at hs
  generalize shape.slots = declared at hs
  generalize tag.shape.slots = slots at hs hp
  generalize tag.parts = parts at hp
  induction hp generalizing declared with
  | nil => cases declared with
    | nil => exact .nil
    | cons => cases hs
  | cons hf _ ih => cases declared with
    | nil => cases hs
    | cons first declared =>
      rw [TagShape.sameSlots_cons, Bool.and_eq_true] at hs
      exact .cons (hf.of_same hs.1) (ih declared hs.2)

namespace TagShape

/-- Whatever a fitting finds has a property. -/
def Finds {α : Type} (x : Fitting (Option α)) (P : α → Prop) : Prop :=
  ∀ noted a, (x.run noted).1 = some a → P a

namespace Finds

variable {α β γ : Type} {P : α → Prop} {Q : β → Prop}

/-- Finding nothing. -/
theorem nothing : Finds (pure none) P := fun _ _ h => by cases h

/-- Finding what has the property. -/
theorem found {a : α} (h : P a) : Finds (pure (some a)) P := fun _ _ hf => by
  cases hf
  exact h

/-- What goes on after a step finds what it finds after any result of the step. -/
theorem after {x : Fitting γ} {f : γ → Fitting (Option α)} (h : ∀ c, Finds (f c) P) :
    Finds (x >>= f) P :=
  fun noted _ hf => h (x.run noted).1 (x.run noted).2 _ hf

/-- What goes on after a find may use that the find has its property. -/
theorem bind {x : Fitting (Option α)} {f : Option α → Fitting (Option β)} (hx : Finds x P)
    (hn : Finds (f none) Q) (hs : ∀ a, P a → Finds (f (some a)) Q) : Finds (x >>= f) Q := by
  intro noted b hb
  change ((f (x.run noted).1).run (x.run noted).2).1 = some b at hb
  cases hr : (x.run noted).1 with
  | none =>
    rw [hr] at hb
    exact hn _ b hb
  | some a =>
    rw [hr] at hb
    exact hs a (hx noted a hr) _ b hb

end Finds

variable {slots : List TagSlot}

/-- A run of pieces that is an expression fills its slot, if the slots after it are filled. -/
theorem finds_fitExpression {operators : OperatorTable} {pieces : List TagPiece} {longest : Nat}
    {fitRest : List TagPiece → Fitting (Option (List TagPart))}
    (h : ∀ rest, Finds (fitRest rest) (List.Forall₂ (TagPart.Fills d) slots)) (n : Nat) :
    Finds (fitExpression operators pieces longest fitRest n)
      (List.Forall₂ (TagPart.Fills d) (.expression :: slots)) := by
  induction n with
  | zero => exact .nothing
  | succ n ih =>
    unfold fitExpression
    split
    · next e _ => exact (h _).bind ih fun parts hp => .found (.cons (.expression e) hp)
    · split
      · split
        · exact .after fun _ => ih
        · exact ih
      · exact ih

/-- Pieces that fit slots fill them. -/
theorem finds_fit (slots : List TagSlot) (pieces : List TagPiece) :
    Finds (fit d slots pieces) (List.Forall₂ (TagPart.Fills d) slots) := by
  induction slots generalizing pieces with
  | nil =>
    unfold fit
    split
    · exact .found .nil
    · exact .nothing
  | cons slot slots ih => cases slot with
    | keyword keyword =>
      unfold fit
      split
      · split
        · next hw => exact (ih _).bind .nothing fun parts hp => .found (.cons (.keyword hw) hp)
        · exact .nothing
      · exact .nothing
    | name =>
      unfold fit
      split
      · split
        · exact .nothing
        · next hw =>
          exact (ih _).bind .nothing fun parts hp =>
            .found (.cons (.name (eq_false_of_ne_true hw)) hp)
      · exact .nothing
    | expression =>
      unfold fit
      exact finds_fitExpression ih _

/-- The shape that pieces fit is one of those that were tried, and they fill its slots. -/
theorem finds_fitFirst (pieces : List TagPiece) (shapes : List TagShape) :
    Finds (fitFirst d pieces shapes) fun found =>
      found.1 ∈ shapes ∧ List.Forall₂ (TagPart.Fills d) found.1.slots found.2 := by
  induction shapes with
  | nil => exact .nothing
  | cons shape shapes ih =>
    unfold fitFirst
    refine (finds_fit shape.slots pieces).bind ?_ ?_
    · intro noted found hf
      exact (ih noted found hf).imp_left (List.mem_cons_of_mem shape)
    · intro parts hp
      exact .found ⟨List.mem_cons_self, hp⟩

end TagShape

/-- The errors of a text: it is no sequence of well-formed units, or a run of pieces that should
be an expression is none. -/
inductive TemplateError.OfText : TemplateError → Prop
  /-- The text is no template. -/
  | parse (error : ParseError) : OfText (.parse error)
  /-- A part of it is no expression. -/
  | expression (position : Nat) (error : ExprError) : OfText (.expression position error)

namespace Lex

/-- What is read as a unit is a text, a tag every slot of which is filled, or an error of the
text. -/
inductive Sound (d : Dialect) : Except TemplateError Lex → Prop
  /-- A text. -/
  | text (s : String) (position : Nat) : Sound d (.ok (.text s position))
  /-- A tag. -/
  | tag {tag : LexedTag} (h : tag.Filled d) : Sound d (.ok (.tag tag))
  /-- An error. -/
  | error {error : TemplateError} (h : error.OfText) : Sound d (.error error)

/-- Pieces are read as a tag every slot of which is filled, or they are an error of the text. -/
theorem sound_ofPieces (position : Nat) (pieces : List TagPiece) :
    Sound d ((LexedTag.ofPieces d position pieces).map .tag) := by
  unfold LexedTag.ofPieces
  split
  · next shape parts _ hf =>
    obtain ⟨hk, hp⟩ := TagShape.finds_fitFirst pieces d.shapes none (shape, parts)
      (congrArg Prod.fst hf)
    exact .tag ⟨hk, hp⟩
  · exact .error (.expression _ _)
  · exact .error (.parse _)

/-- The first unit is sound. -/
theorem sound_first (symbols : List String) (token : Token) (rest : List Token) :
    Sound d (first d symbols token rest).1 := by
  unfold first
  split
  · exact .text _ _
  · split
    · exact .error (.parse _)
    · exact sound_ofPieces _ _
  all_goals exact .error (.parse _)

/-- All units are sound. -/
theorem sound_units (symbols : List String) (tokens : List Token) :
    ∀ unit ∈ units d symbols tokens, Sound d unit := by
  induction hl : tokens.length using Nat.strongRecOn generalizing tokens with
  | _ n ih =>
    subst hl
    intro unit hu
    unfold units at hu
    split at hu
    · exact absurd hu List.not_mem_nil
    · next token rest =>
      rcases List.mem_cons.mp hu with rfl | hu
      · exact sound_first symbols token rest
      · have hlt := length_first_le d symbols token rest
        exact ih _ (Nat.lt_succ_of_le hlt) _ rfl unit hu

end Lex

end TagTemplate
