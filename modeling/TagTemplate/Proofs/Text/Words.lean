import TagTemplate.Text.Words

/-!
# Cutting texts

A cut at a character separates what stands before its first occurrence from what follows. Words are
what stands between blanks and is not empty, so words with single spaces between them are cut into
the same words again. Trimming leaves what neither begins nor ends with a blank as it is.
-/

namespace TagTemplate.Text

variable {c mark : Char} {cs before after word : List Char} {ws : List (List Char)}

/-- A cut at a character has it between two parts, of which the first one is free of it. -/
theorem cutAt_eq_some_iff :
    cutAt mark cs = some (before, after) ↔ cs = before ++ mark :: after ∧ mark ∉ before := by
  induction cs generalizing before after with
  | nil => simp [cutAt]
  | cons c cs ih =>
    rw [cutAt]
    split
    · next hc =>
      subst hc
      cases before with
      | nil => simp
      | cons b before =>
        simp only [Option.some.injEq, Prod.mk.injEq, reduceCtorEq, false_and, List.cons_append,
          List.cons.injEq, List.mem_cons, not_or, false_iff]
        rintro ⟨⟨rfl, -⟩, hne, -⟩
        exact hne rfl
    · next hc =>
      cases before with
      | nil => simp [hc]
      | cons b before =>
        simp only [Option.map_eq_some_iff, Prod.exists, Prod.mk.injEq, List.cons.injEq, ih,
          List.cons_append, List.mem_cons, not_or]
        constructor
        · rintro ⟨_, _, ⟨hcs, hfree⟩, ⟨rfl, rfl⟩, rfl⟩
          exact ⟨⟨rfl, hcs⟩, Ne.symm hc, hfree⟩
        · rintro ⟨⟨rfl, hcs⟩, -, hfree⟩
          exact ⟨before, after, ⟨hcs, hfree⟩, ⟨rfl, rfl⟩, rfl⟩

/-- The pieces between marks are those of the library. -/
theorem piecesAt_eq_splitOn (mark : Char) (cs : List Char) :
    piecesAt mark cs = cs.splitOn mark := by
  induction cs with
  | nil => rfl
  | cons c cs ih =>
    rw [piecesAt, List.splitOn_cons_eq_if_modifyHead, ih]
    by_cases hc : c = mark
    · rw [if_pos hc, if_pos (beq_iff_eq.mpr hc)]
    · rw [if_neg hc, if_neg (mt beq_iff_eq.mp hc)]
      cases hp : cs.splitOn mark with
      | nil => exact absurd hp (List.splitOn_ne_nil mark cs)
      | cons piece rest => rfl

/-- Words are the pieces between blanks that are not empty. -/
theorem wordsOf_eq_filter (cs : List Char) :
    wordsOf cs = (cs.splitOnP isBlank).filter fun piece => !piece.isEmpty := by
  induction cs with
  | nil => rfl
  | cons c cs ih =>
    unfold wordsOf
    rw [List.splitOnP_cons_eq_if_modifyHead]
    by_cases hc : isBlank c = true
    · rw [if_pos hc, if_pos hc, ih]
      rfl
    · rw [if_neg hc, if_neg hc, ih]
      cases cs with
      | nil => rfl
      | cons d cs =>
        rw [List.splitOnP_cons_eq_if_modifyHead]
        by_cases hd : isBlank d = true
        · rw [if_pos hd]
          cases hw : (cs.splitOnP isBlank).filter fun piece => !piece.isEmpty <;> simp [hd, hw]
        · cases hp : cs.splitOnP isBlank with
          | nil => exact absurd hp (List.splitOnP_ne_nil _ _)
          | cons piece rest => simp [hd]

/-- A word is not empty and free of blanks. -/
structure IsWord (word : List Char) : Prop where
  /-- It has a character. -/
  ne_nil : word ≠ []
  /-- None of its characters is blank. -/
  not_blank : ∀ c ∈ word, isBlank c = false

/-- No piece between characters of a kind holds one. -/
theorem not_of_mem_splitOnP {p : Char → Bool} (h : word ∈ cs.splitOnP p) :
    ∀ c ∈ word, p c = false := by
  induction cs generalizing word with
  | nil =>
    rw [List.splitOnP_nil, List.mem_singleton] at h
    subst h
    simp
  | cons c cs ih =>
    rw [List.splitOnP_cons_eq_if_modifyHead] at h
    split at h
    · rcases List.mem_cons.mp h with rfl | h
      · simp
      · exact ih h
    · next hc =>
      cases hp : cs.splitOnP p with
      | nil => exact absurd hp (List.splitOnP_ne_nil _ _)
      | cons piece rest =>
        rw [hp] at ih h
        rcases List.mem_cons.mp h with rfl | h
        · rintro d hd
          rcases List.mem_cons.mp hd with rfl | hd
          · exact eq_false_of_ne_true hc
          · exact ih List.mem_cons_self d hd
        · exact ih (List.mem_cons_of_mem _ h)

theorem isWord_of_mem_wordsOf (h : word ∈ wordsOf cs) : IsWord word := by
  rw [wordsOf_eq_filter, List.mem_filter] at h
  refine ⟨?_, not_of_mem_splitOnP h.1⟩
  rintro rfl
  exact absurd h.2 (by decide)

/-- A word with a blank behind it is the first word. -/
theorem wordsOf_append_blank (hw : IsWord word) (hc : isBlank c = true) (cs : List Char) :
    wordsOf (word ++ c :: cs) = word :: wordsOf cs := by
  rw [wordsOf_eq_filter, wordsOf_eq_filter,
    List.splitOnP_append_cons_of_forall_mem hw.not_blank c hc, List.filter_cons_of_pos]
  simpa using hw.ne_nil

/-- A word alone is the only word. -/
theorem wordsOf_word (hw : IsWord word) : wordsOf word = [word] := by
  rw [wordsOf_eq_filter, List.splitOnP_eq_singleton hw.not_blank, List.filter_cons_of_pos]
  · rfl
  · simpa using hw.ne_nil

/-- Words with single spaces between them are these words. -/
theorem wordsOf_intercalate (h : ∀ word ∈ ws, IsWord word) :
    wordsOf ([' '].intercalate ws) = ws := by
  induction ws with
  | nil => rfl
  | cons word ws ih =>
    obtain ⟨hw, hrest⟩ := List.forall_mem_cons.mp h
    cases ws with
    | nil => simpa using wordsOf_word hw
    | cons next ws =>
      have hspace : [' '].intercalate (word :: next :: ws) =
          word ++ ' ' :: [' '].intercalate (next :: ws) := by
        simp [List.intercalate]
      rw [hspace, wordsOf_append_blank hw (by decide), ih hrest]

/-- The words of a text, with single spaces between them, are its words. -/
theorem words_intercalate_words (s : String) : words (" ".intercalate (words s)) = words s := by
  have hlist : (words s).map String.toList = wordsOf s.toList := by
    simp [words, Function.comp_def]
  have hchars : (" ".intercalate (words s)).toList = [' '].intercalate (wordsOf s.toList) := by
    rw [String.toList_intercalate, hlist]
    rfl
  rw [words, hchars, wordsOf_intercalate fun _ => isWord_of_mem_wordsOf]
  rfl

/-- What begins with no blank is not trimmed at its front. -/
theorem trimFront_cons_of_not_blank (hc : isBlank c = false) (cs : List Char) :
    trimFront (c :: cs) = c :: cs :=
  List.dropWhile_cons_of_neg (Bool.not_eq_true _ ▸ hc)

/-- What neither begins nor ends with a blank is not trimmed. -/
theorem trimmed_of_ends {last : Char} (hc : isBlank c = false) (hl : isBlank last = false)
    (cs : List Char) : trimmed (c :: (cs ++ [last])) = c :: (cs ++ [last]) := by
  have hreverse : (c :: (cs ++ [last])).reverse = last :: (c :: cs).reverse := by simp
  rw [trimmed, trimFront_cons_of_not_blank hc, hreverse, trimFront_cons_of_not_blank hl,
    ← hreverse, List.reverse_reverse]

/-- A blank at the front is trimmed. -/
theorem trimmed_cons_of_blank (hc : isBlank c = true) (cs : List Char) :
    trimmed (c :: cs) = trimmed cs := by
  have hfront : trimFront (c :: cs) = trimFront cs := List.dropWhile_cons_of_pos hc
  rw [trimmed, hfront, ← trimmed]

end TagTemplate.Text
