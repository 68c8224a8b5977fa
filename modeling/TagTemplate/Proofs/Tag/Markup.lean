import Mathlib.Data.List.Forall2
import Mathlib.Data.List.Infix
import TagTemplate.Proofs.Result
import TagTemplate.Proofs.Text.Words
import TagTemplate.TagShape

/-!
# Markup of shapes

Each word of markup writes one slot, and a slot is written by one word. So the markup of a shape that was
read has the words that it was read from, and is read as the same shape.
-/

namespace TagTemplate

/-- A letter of ASCII, or an underscore. -/
def IsAsciiStart (c : Char) : Prop := ('A' ≤ c ∧ c ≤ 'Z') ∨ ('a' ≤ c ∧ c ≤ 'z') ∨ c = '_'

/-- A letter or a digit of ASCII, or an underscore. -/
def IsAsciiPart (c : Char) : Prop := IsAsciiStart c ∨ ('0' ≤ c ∧ c ≤ '9')

/-- A letter of ASCII or an underscore, and letters, digits and underscores behind it. -/
def IsAsciiIdentifier (word : String) : Prop :=
  ∃ first rest, word.toList = first :: rest ∧ IsAsciiStart first ∧ ∀ c ∈ rest, IsAsciiPart c

theorem isAsciiStart_iff (c : Char) : (c.isAlpha || c == '_') = true ↔ IsAsciiStart c := by
  delta Char.isAlpha Char.isUpper Char.isLower
  simp only [IsAsciiStart, Char.le_def, Bool.or_eq_true, Bool.and_eq_true, decide_eq_true_eq,
    beq_iff_eq, or_assoc]

theorem isAsciiPart_iff (c : Char) : (c.isAlphanum || c == '_') = true ↔ IsAsciiPart c := by
  delta Char.isAlphanum Char.isDigit
  rw [IsAsciiPart, ← isAsciiStart_iff, Char.le_def, Char.le_def, Bool.or_right_comm, Bool.or_eq_true,
    Bool.and_eq_true, decide_eq_true_eq, decide_eq_true_eq]

namespace TagSlot

/-- Keywords are the identifiers of ASCII. -/
theorem isKeywordWord_iff (word : String) :
    isKeywordWord word = true ↔ IsAsciiIdentifier word := by
  unfold isKeywordWord IsAsciiIdentifier
  cases word.toList with
  | nil => simp
  | cons c cs => simp [← isAsciiStart_iff, ← isAsciiPart_iff, and_comm]

/-- How a slot is written in markup. -/
inductive Writes : TagSlot → String → Prop
  /-- A question mark for a name. -/
  | name : Writes .name "?"
  /-- A dollar sign for an expression. -/
  | expression : Writes .expression "$"
  /-- An identifier for itself as a keyword. -/
  | keyword {word : String} (h : IsAsciiIdentifier word) : Writes (.keyword word) word

variable {slot : TagSlot} {word : String}

/-- What is written is the markup of the slot. -/
theorem Writes.markup_eq (h : slot.Writes word) : slot.markup = word := by
  cases h <;> rfl

/-- Words that write slots are their markup, one by one. -/
theorem map_markup_of_writes {slots : List TagSlot} {ws : List String}
    (h : List.Forall₂ Writes slots ws) : slots.map markup = ws := by
  induction h with
  | nil => rfl
  | cons hslot _ ih => rw [List.map_cons, hslot.markup_eq, ih]

/-- Only the dollar sign writes an expression. -/
theorem Writes.eq_expression_iff (h : slot.Writes word) : slot = .expression ↔ word = "$" := by
  cases h with
  | name => decide
  | expression => decide
  | keyword h =>
    refine ⟨nofun, ?_⟩
    rintro rfl
    exact absurd ((isKeywordWord_iff "$").mpr h) (by decide)

/-- A word is read as the slot that it writes. -/
theorem ofWord_eq_ok_iff : ofWord word = .ok slot ↔ slot.Writes word := by
  constructor
  · intro h
    unfold ofWord at h
    split at h
    · next hw =>
      cases h
      exact hw ▸ .name
    · split at h
      · next hw =>
        cases h
        exact hw ▸ .expression
      · split at h
        · next hw =>
          cases h
          exact .keyword ((isKeywordWord_iff word).mp hw)
        · cases h
  · intro h
    cases h with
    | name => rfl
    | expression => rfl
    | keyword hw =>
      have hword := (isKeywordWord_iff word).mpr hw
      unfold ofWord
      rw [if_neg, if_neg, if_pos hword]
      · rintro rfl
        exact absurd hword (by decide)
      · rintro rfl
        exact absurd hword (by decide)

/-- The words that write slots are the two marks and the identifiers. -/
theorem exists_writes_iff :
    (∃ slot : TagSlot, slot.Writes word) ↔ word = "?" ∨ word = "$" ∨ IsAsciiIdentifier word := by
  constructor
  · rintro ⟨slot, h⟩
    cases h with
    | name => exact .inl rfl
    | expression => exact .inr (.inl rfl)
    | keyword h => exact .inr (.inr h)
  · rintro (rfl | rfl | h)
    · exact ⟨_, .name⟩
    · exact ⟨_, .expression⟩
    · exact ⟨_, .keyword h⟩

/-- Words write slots, one by one, if each writes one. -/
theorem exists_forall₂_writes_iff {ws : List String} :
    (∃ slots, List.Forall₂ Writes slots ws) ↔ ∀ word ∈ ws, ∃ slot : TagSlot, slot.Writes word := by
  induction ws with
  | nil => exact ⟨fun _ => nofun, fun _ => ⟨[], .nil⟩⟩
  | cons word ws ih =>
    rw [List.forall_mem_cons, ← ih]
    constructor
    · rintro ⟨slots, h⟩
      obtain ⟨slot, rest, hslot, hrest, -⟩ := List.forall₂_cons_right_iff.mp h
      exact ⟨⟨slot, hslot⟩, rest, hrest⟩
    · rintro ⟨⟨slot, hslot⟩, slots, hrest⟩
      exact ⟨slot :: slots, .cons hslot hrest⟩

end TagSlot

namespace TagShape

variable {last : Option TagSlot} {slots : List TagSlot} {ws : List String} {text : String}
  {shape : TagShape}

/-- Two items stand side by side at the front or further on. -/
theorem pair_infix_cons_iff {α : Type} {a b c : α} {cs : List α} :
    [a, b] <:+: c :: cs ↔ (c = a ∧ cs.head? = some b) ∨ [a, b] <:+: cs := by
  rw [List.infix_cons_iff, List.cons_prefix_cons, eq_comm (a := a)]
  cases cs <;> simp [List.cons_prefix_cons, eq_comm (a := b)]

/-- Words are read as the slots that they write, one by one, unless two of them, or the slot before
them and the first of them, are expressions side by side. -/
theorem slotsOf_eq_ok_iff :
    slotsOf last ws = .ok slots ↔
      List.Forall₂ TagSlot.Writes slots ws ∧ ¬ ["$", "$"] <:+: ws ∧
        (last = some .expression → ws.head? ≠ some "$") := by
  induction ws generalizing last slots with
  | nil => cases slots <;> simp [slotsOf]
  | cons word ws ih =>
    rw [slotsOf, pair_infix_cons_iff, List.forall₂_cons_right_iff]
    cases hword : TagSlot.ofWord word with
    | error fault =>
      refine ⟨nofun, ?_⟩
      rintro ⟨⟨slot, _, hslot, -⟩, -⟩
      cases hword.symm.trans (TagSlot.ofWord_eq_ok_iff.mpr hslot)
    | ok slot =>
      have hslot := TagSlot.ofWord_eq_ok_iff.mp hword
      dsimp only
      split
      · next hc =>
        obtain ⟨rfl, hlast⟩ := hc
        cases hslot
        simp [hlast]
      · next hc =>
        rw [map_eq_ok_iff]
        constructor
        · rintro ⟨rest, hrest, rfl⟩
          obtain ⟨hwrites, hpair, hhead⟩ := ih.mp hrest
          refine ⟨⟨slot, rest, hslot, hwrites, rfl⟩, ?_, ?_⟩
          · rintro (⟨hw, hh⟩ | hp)
            · exact hhead (congrArg some (hslot.eq_expression_iff.mpr hw)) hh
            · exact hpair hp
          · intro hlast hh
            exact hc ⟨hslot.eq_expression_iff.mpr (Option.some.inj hh), hlast⟩
        · rintro ⟨⟨slot', rest, hslot', hwrites, rfl⟩, hpair, -⟩
          cases hword.symm.trans (TagSlot.ofWord_eq_ok_iff.mpr hslot')
          refine ⟨rest, ih.mpr ⟨hwrites, fun hp => hpair (.inr hp), fun he hh => hpair (.inl ?_)⟩, rfl⟩
          exact ⟨hslot.eq_expression_iff.mp (Option.some.inj he), hh⟩

/-- Markup describes a shape if its words write the slots, there is a slot, and no two expressions
stand side by side. -/
theorem parse_eq_ok_iff :
    parse text = .ok shape ↔
      shape.slots ≠ [] ∧ List.Forall₂ TagSlot.Writes shape.slots (Text.words text) ∧
        ¬ ["$", "$"] <:+: Text.words text := by
  have hslots : ∀ {slots}, slotsOf none (Text.words text) = .ok slots ↔
      List.Forall₂ TagSlot.Writes slots (Text.words text) ∧ ¬ ["$", "$"] <:+: Text.words text := by
    intro slots
    rw [slotsOf_eq_ok_iff]
    simp
  obtain ⟨slots⟩ := shape
  rw [← hslots]
  unfold parse
  cases slotsOf none (Text.words text) with
  | error fault => simp
  | ok found => cases found with
    | nil =>
      refine ⟨nofun, ?_⟩
      rintro ⟨hne, h⟩
      exact absurd (Except.ok.inj h).symm hne
    | cons slot found =>
      simp only [Except.ok.injEq, mk.injEq]
      refine ⟨?_, And.right⟩
      rintro rfl
      exact ⟨List.cons_ne_nil slot found, rfl⟩

/-- The markup of a shape has the words that it was read from, with single spaces between. -/
theorem markup_of_parse (h : parse text = .ok shape) :
    shape.markup = " ".intercalate (Text.words text) := by
  rw [markup, TagSlot.map_markup_of_writes (parse_eq_ok_iff.mp h).2.1]

/-- The markup of a shape that was read is read as this shape. -/
theorem parse_markup (h : parse text = .ok shape) : parse shape.markup = .ok shape := by
  rw [parse_eq_ok_iff, markup_of_parse h, Text.words_intercalate_words, ← parse_eq_ok_iff]
  exact h

/-- Markup describes a shape exactly if it has words, each of them is a mark or an identifier, and no
two marks of expressions stand side by side. -/
theorem exists_parse_iff :
    (∃ shape, parse text = .ok shape) ↔
      Text.words text ≠ [] ∧
      (∀ word ∈ Text.words text, word = "?" ∨ word = "$" ∨ IsAsciiIdentifier word) ∧
      ¬ ["$", "$"] <:+: Text.words text := by
  simp only [← TagSlot.exists_writes_iff, ← TagSlot.exists_forall₂_writes_iff]
  constructor
  · rintro ⟨shape, h⟩
    obtain ⟨hne, hwords, hpair⟩ := parse_eq_ok_iff.mp h
    refine ⟨?_, ⟨shape.slots, hwords⟩, hpair⟩
    intro hnil
    rw [hnil, List.forall₂_nil_right_iff] at hwords
    exact hne hwords
  · rintro ⟨hne, ⟨slots, hwords⟩, hpair⟩
    refine ⟨⟨slots⟩, parse_eq_ok_iff.mpr ⟨?_, hwords, hpair⟩⟩
    rintro rfl
    exact hne (List.forall₂_nil_left_iff.mp hwords)

end TagShape

end TagTemplate
