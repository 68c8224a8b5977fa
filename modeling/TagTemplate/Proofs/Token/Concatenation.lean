import TagTemplate.Dialect
import TagTemplate.Proofs.Token.Structure

/-!
# Tokens of texts in a row

The tokens of two texts in a row are those of the first and those of the second, with the texts at
the seam merged into one. A token of the first text ends where it did, as something is left after it
in its tag; only a numeral looks further than one character ahead. So the exception is a tag that is
closed straight after a numeral, by a delimiter with which a numeral may go on.
-/

namespace TagTemplate

section seam

variable {α : Type} {merge : α → α → Option α}

/-- Two lists in a row, where the last item of the first one and the first item of the second one
may merge into one. -/
def seam (merge : α → α → Option α) : List α → List α → List α
  | [], ys => ys
  | [x], y :: ys => (merge x y).elim (x :: y :: ys) (· :: ys)
  | x :: xs, ys => x :: seam merge xs ys

@[simp] theorem seam_nil_right (xs : List α) : seam merge xs [] = xs := by
  induction xs with
  | nil => rfl
  | cons x xs ih => cases xs <;> simp_all [seam]

/-- The items before the last one stay. -/
theorem seam_cons_of_ne_nil {x : α} {xs : List α} (h : xs ≠ []) (ys : List α) :
    seam merge (x :: xs) ys = x :: seam merge xs ys := by
  cases xs with
  | nil => exact absurd rfl h
  | cons x' xs => rfl

/-- So do all of them. -/
theorem seam_append_of_ne_nil (before : List α) {xs : List α} (h : xs ≠ []) (ys : List α) :
    seam merge (before ++ xs) ys = before ++ seam merge xs ys := by
  induction before with
  | nil => rfl
  | cons x before ih =>
    rw [List.cons_append, seam_cons_of_ne_nil (List.append_ne_nil_of_right_ne_nil before h), ih,
      List.cons_append]

/-- An item that merges with nothing stays. -/
theorem seam_cons_of_none {x : α} (h : ∀ y, merge x y = none) (xs ys : List α) :
    seam merge (x :: xs) ys = x :: seam merge xs ys := by
  cases xs with
  | cons x' xs => rfl
  | nil => cases ys with
    | nil => rfl
    | cons y ys => simp [seam, h]

/-- Either nothing merges, or the two items at the seam do. -/
theorem seam_cases (merge : α → α → Option α) (xs ys : List α) :
    seam merge xs ys = xs ++ ys ∨
      ∃ init x y z tail, xs = init ++ [x] ∧ ys = y :: tail ∧ merge x y = some z ∧
        seam merge xs ys = init ++ z :: tail := by
  induction xs with
  | nil => exact .inl rfl
  | cons x xs ih =>
    by_cases hn : xs = []
    · subst hn
      cases ys with
      | nil => exact .inl (by simp)
      | cons y ys => cases hm : merge x y with
        | none => exact .inl (by simp [seam, hm])
        | some z => exact .inr ⟨[], x, y, z, ys, rfl, rfl, hm, by simp [seam, hm]⟩
    · rw [seam_cons_of_ne_nil hn]
      rcases ih with h | ⟨init, x', y, z, tail, rfl, rfl, hm, h⟩
      · exact .inl (by rw [h, List.cons_append])
      · exact .inr ⟨x :: init, x', y, z, tail, rfl, rfl, hm, by rw [h, List.cons_append]⟩

end seam

namespace Lexeme

variable {cs bs after : List Char}

/-- A text begins with a digit. -/
def BeginsWithDigit (cs : List Char) : Prop := ∃ c rest, cs = c :: rest ∧ c.isDigit = true

/-- What is taken while a condition holds is the same with more behind, if something was left. -/
theorem takeWhile_append_of_left {p : Char → Bool} (h : cs.drop (cs.takeWhile p).length ≠ [])
    (bs : List Char) : (cs ++ bs).takeWhile p = cs.takeWhile p := by
  rw [List.takeWhile_append, if_neg]
  intro he
  rw [he, List.drop_length] at h
  exact h rfl

/-- Where no text is read, and not because the end is near, none is read with more behind. -/
theorem textSpan_append_of_nil {opening c d : Char} {rest : List Char}
    (h : textSpan opening (c :: d :: rest) = ([], [])) (bs : List Char) :
    textSpan opening (c :: d :: rest ++ bs) = ([], []) := by
  have hc : c = opening := eq_opening_of_textSpan (congrArg Prod.snd h)
  subst hc
  by_cases hd : d = c
  · rw [hd, textSpan_opening] at h
    cases h
  · exact textSpan_tag hd _

theorem stringSpan_quote (quote : Char) (cs : List Char) :
    stringSpan quote (quote :: cs) = some ([], [quote]) := by
  unfold stringSpan
  exact if_pos rfl

theorem stringSpan_escape {quote : Char} (h : '\\' ≠ quote) (e : Char) (cs : List Char) :
    stringSpan quote ('\\' :: e :: cs) =
      (stringSpan quote cs).map fun (text, raw) => (unescape e :: text, '\\' :: e :: raw) := by
  conv => lhs; unfold stringSpan
  rw [if_neg h, if_pos rfl]

theorem stringSpan_plain {quote c : Char} (hq : c ≠ quote) (hb : c ≠ '\\') (cs : List Char) :
    stringSpan quote (c :: cs) =
      (stringSpan quote cs).map fun (text, raw) => (c :: text, c :: raw) := by
  conv => lhs; unfold stringSpan
  rw [if_neg hq, if_neg hb]

/-- A string has its end and does not look behind it. -/
theorem stringSpan_append {quote : Char} {text raw : List Char}
    (h : stringSpan quote cs = some (text, raw)) (bs : List Char) :
    stringSpan quote (cs ++ bs) = some (text, raw) := by
  fun_induction stringSpan quote cs generalizing text raw with
  | case1 => cases h
  | case2 rest =>
    rw [List.cons_append, stringSpan_quote]
    exact h
  | case3 => cases h
  | case4 e after hq ih =>
    obtain ⟨⟨text', raw'⟩, hs, rfl, rfl⟩ := Option.map_eq_some_iff.mp h
    rw [List.cons_append, List.cons_append, stringSpan_escape hq, ih hs, Option.map_some]
  | case5 c rest hq hb ih =>
    obtain ⟨⟨text', raw'⟩, hs, rfl, rfl⟩ := Option.map_eq_some_iff.mp h
    rw [List.cons_append, stringSpan_plain hq hb, ih hs, Option.map_some]

/-- The digits after a point are the same with more behind, unless the point is the last
character. -/
theorem fractionSpan_append (hn : cs.drop (fractionSpan cs).length ≠ []) (bs : List Char) :
    fractionSpan (cs ++ bs) = fractionSpan cs ∨ cs = ['.'] ∧ BeginsWithDigit bs := by
  match cs with
  | [] => exact absurd rfl hn
  | [c] =>
    by_cases hc : c = '.'
    · subst hc
      match bs with
      | [] => exact .inl rfl
      | b :: bs =>
        cases hb : b.isDigit with
        | false => exact .inl (by simp [fractionSpan, hb])
        | true => exact .inr ⟨rfl, b, bs, rfl, hb⟩
    · exact .inl (by simp [fractionSpan, hc])
  | c :: e :: rest =>
    left
    by_cases hc : c = '.'
    · subst hc
      cases he : e.isDigit with
      | false => simp [fractionSpan, he]
      | true =>
        simp only [fractionSpan, he, if_true, List.length_cons, List.drop_succ_cons] at hn
        simp only [List.cons_append, fractionSpan, he, if_true]
        rw [takeWhile_append_of_left hn]
    · simp [fractionSpan, hc]

/-- Digits that are read after a mark and perhaps a sign. -/
theorem exponentSpan_mark {mark : Char} (h : mark = 'e' ∨ mark = 'E') (cs : List Char) :
    exponentSpan (mark :: cs) =
      let digits := (cs.drop (signSpan cs).length).takeWhile Char.isDigit
      if digits.isEmpty then [] else mark :: signSpan cs ++ digits :=
  if_pos h

theorem takeWhile_isDigit_eq_nil (h : ¬BeginsWithDigit cs) : cs.takeWhile Char.isDigit = [] := by
  cases cs with
  | nil => rfl
  | cons c cs =>
    rw [List.takeWhile_cons, if_neg]
    exact fun hc => h ⟨c, cs, rfl, hc⟩

/-- An exponent is the same with more behind, unless only its mark is there, or the mark and a
sign. -/
theorem exponentSpan_append (hn : cs.drop (exponentSpan cs).length ≠ []) (bs : List Char) :
    exponentSpan (cs ++ bs) = exponentSpan cs ∨
      ∃ mark, (mark = 'e' ∨ mark = 'E') ∧ exponentSpan cs = [] ∧
        (cs = [mark] ∨ ∃ sign, (sign = '+' ∨ sign = '-') ∧ cs = [mark, sign] ∧ BeginsWithDigit bs) := by
  cases cs with
  | nil => exact absurd rfl hn
  | cons mark rest =>
    by_cases hm : mark = 'e' ∨ mark = 'E'
    · cases rest with
      | nil => exact .inr ⟨mark, hm, exponentSpan_mark hm [], .inl rfl⟩
      | cons sign rest =>
        have hsign : signSpan (sign :: rest ++ bs) = signSpan (sign :: rest) := rfl
        have hdrop : (sign :: rest ++ bs).drop (signSpan (sign :: rest)).length =
            (sign :: rest).drop (signSpan (sign :: rest)).length ++ bs := by
          apply List.drop_append_of_le_length
          exact (signSpan_isPrefix _).length_le
        rw [exponentSpan_mark hm] at hn
        rw [List.cons_append, exponentSpan_mark hm, exponentSpan_mark hm, hsign, hdrop]
        generalize hl : (sign :: rest).drop (signSpan (sign :: rest)).length = left at hn ⊢
        by_cases hd : BeginsWithDigit left
        · left
          have hdigits : left.takeWhile Char.isDigit ≠ [] := by
            obtain ⟨c, left, rfl, hc⟩ := hd
            rw [List.takeWhile_cons, if_pos hc]
            exact List.cons_ne_nil _ _
          dsimp only at hn
          rw [if_neg (mt List.isEmpty_iff.mp hdigits), List.length_append, List.length_cons,
            ← Nat.add_right_comm, List.drop_succ_cons, ← List.drop_drop, hl] at hn
          rw [takeWhile_append_of_left hn]
        · cases left with
          | cons c left =>
            left
            have hd' : ¬BeginsWithDigit (c :: left ++ bs) := by
              rintro ⟨c', rest', he, hc⟩
              cases he
              exact hd ⟨c, left, rfl, hc⟩
            rw [takeWhile_isDigit_eq_nil hd, takeWhile_isDigit_eq_nil hd']
          | nil =>
            by_cases hb : BeginsWithDigit bs
            · right
              have hspan : signSpan (sign :: rest) = if sign = '+' ∨ sign = '-' then [sign] else [] :=
                rfl
              by_cases hs : sign = '+' ∨ sign = '-'
              · rw [hspan, if_pos hs] at hl
                have hrest : rest = [] := hl
                exact ⟨mark, hm, rfl, .inr ⟨sign, hs, by rw [hrest], hb⟩⟩
              · rw [hspan, if_neg hs] at hl
                cases hl
            · left
              rw [List.nil_append, takeWhile_isDigit_eq_nil hb]
              rfl
    · refine .inl ?_
      simp [exponentSpan, hm]

/-- Why a numeral may go on when more is behind what was left. -/
inductive Pending : List Char → List Char → List Char → Prop
  /-- A point is left after digits, and a digit is behind. -/
  | point {span bs : List Char} (hs : ∀ c ∈ span, c.isDigit = true) (hb : BeginsWithDigit bs) :
    Pending span ['.'] bs
  /-- The mark of an exponent is left. -/
  | mark {span bs : List Char} {mark : Char} (hm : mark = 'e' ∨ mark = 'E') :
    Pending span [mark] bs
  /-- The mark of an exponent and a sign are left after digits and perhaps a point, and a digit is
  behind. -/
  | sign {span bs : List Char} {mark sign : Char} (hm : mark = 'e' ∨ mark = 'E')
    (hs : sign = '+' ∨ sign = '-') (hspan : ∀ c ∈ span, c.isDigit = true ∨ c = '.')
    (hb : BeginsWithDigit bs) : Pending span [mark, sign] bs

/-- A fraction consists of digits and a point. -/
theorem isDigit_or_eq_of_mem_fractionSpan {c : Char} (h : c ∈ fractionSpan cs) :
    c.isDigit = true ∨ c = '.' := by
  unfold fractionSpan at h
  split at h
  · next e rest =>
    split at h
    · next he =>
      rcases List.mem_cons.mp h with rfl | h
      · exact .inr rfl
      · rcases List.mem_cons.mp h with rfl | h
        · exact .inl he
        · exact .inl (List.mem_takeWhile_imp h)
    · cases h
  · cases h

theorem not_beginsWithDigit_append (hn : cs ≠ []) (h : ¬BeginsWithDigit cs) (bs : List Char) :
    ¬BeginsWithDigit (cs ++ bs) := by
  cases cs with
  | nil => exact absurd rfl hn
  | cons c cs =>
    rintro ⟨c', rest, he, hc⟩
    cases he
    exact h ⟨c, cs, rfl, hc⟩

/-- What is left after a span in front. -/
theorem drop_of_eq_append {span : List Char} (h : cs = span ++ after) :
    cs.drop span.length = after := by
  rw [h, List.drop_left]

/-- What a numeral has after its first digits. -/
def fractionAndExponent (cs : List Char) : List Char :=
  fractionSpan cs ++ exponentSpan (cs.drop (fractionSpan cs).length)

/-- A numeral is its first digits and what it has after them. -/
theorem numberSpan_digits_append {whole : List Char} (hw : ∀ c ∈ whole, c.isDigit = true)
    (hn : ¬BeginsWithDigit cs) :
    numberSpan (whole ++ cs) = whole ++ fractionAndExponent cs := by
  have htake : (whole ++ cs).takeWhile Char.isDigit = whole := by
    rw [List.takeWhile_append_of_pos hw, takeWhile_isDigit_eq_nil hn, List.append_nil]
  unfold numberSpan
  dsimp only
  rw [htake, List.drop_left, List.append_assoc]
  rfl

/-- The first digits of a text and what is left after them. -/
theorem exists_digits (cs : List Char) :
    ∃ whole left, cs = whole ++ left ∧ (∀ c ∈ whole, c.isDigit = true) ∧
      ¬BeginsWithDigit left := by
  refine ⟨cs.takeWhile Char.isDigit, cs.dropWhile Char.isDigit,
    List.takeWhile_append_dropWhile.symm, fun c hc => List.mem_takeWhile_imp hc, ?_⟩
  rintro ⟨c, rest, he, hc⟩
  have hhead := List.head?_dropWhile_not Char.isDigit cs
  rw [he] at hhead
  simp [hc] at hhead

/-- What a numeral has after its first digits is the same with more behind, unless the numeral may
go on. -/
theorem fractionAndExponent_append {whole : List Char} (hw : ∀ c ∈ whole, c.isDigit = true)
    (h : cs = fractionAndExponent cs ++ after) (hn : after ≠ []) (bs : List Char) :
    fractionAndExponent (cs ++ bs) = fractionAndExponent cs ∨
      Pending (whole ++ fractionAndExponent cs) after bs := by
  obtain ⟨left, hleft⟩ := fractionSpan_isPrefix cs
  have hdrop : cs.drop (fractionSpan cs).length = left := drop_of_eq_append hleft.symm
  have hafter : left = exponentSpan left ++ after := by
    rw [fractionAndExponent, hdrop, List.append_assoc] at h
    exact List.append_cancel_left (hleft.trans h)
  have hexponent : left.drop (exponentSpan left).length = after := drop_of_eq_append hafter
  have hne : left ≠ [] := by
    rintro rfl
    exact hn hexponent.symm
  rcases fractionSpan_append (hdrop ▸ hne) bs with hf | ⟨rfl, hb⟩
  · have hbehind : (cs ++ bs).drop (fractionSpan cs).length = left ++ bs := by
      rw [List.drop_append_of_le_length (fractionSpan_isPrefix cs).length_le, hdrop]
    rcases exponentSpan_append (hexponent.symm ▸ hn) bs with he | ⟨mark, hm, hnone, hmark⟩
    · left
      rw [fractionAndExponent, fractionAndExponent, hf, hbehind, hdrop, he]
    · right
      rw [hnone, List.nil_append] at hafter
      rw [← hafter]
      rcases hmark with rfl | ⟨sign, hs, rfl, hb⟩
      · exact .mark hm
      · refine .sign hm hs (fun c hc => ?_) hb
        rw [fractionAndExponent, hdrop, hnone, List.append_nil] at hc
        rcases List.mem_append.mp hc with hc | hc
        · exact .inl (hw c hc)
        · exact isDigit_or_eq_of_mem_fractionSpan hc
  · right
    have hnone : fractionAndExponent ['.'] = [] := rfl
    rw [hnone, List.nil_append] at h
    rw [← h, hnone, List.append_nil]
    exact .point hw hb

/-- A numeral is the same with more behind, unless it may go on. -/
theorem numberSpan_append (h : cs = numberSpan cs ++ after) (hn : after ≠ []) (bs : List Char) :
    numberSpan (cs ++ bs) = numberSpan cs ∨ Pending (numberSpan cs) after bs := by
  obtain ⟨whole, left, rfl, hw, hl⟩ := exists_digits cs
  rw [numberSpan_digits_append hw hl, List.append_assoc] at h
  have hleft := List.append_cancel_left h
  have hne : left ≠ [] := by
    intro he
    rw [he] at hleft
    exact hn (List.append_eq_nil_iff.mp hleft.symm).2
  rw [List.append_assoc, numberSpan_digits_append hw hl,
    numberSpan_digits_append hw (not_beginsWithDigit_append hne hl bs)]
  rcases fractionAndExponent_append hw hleft hn bs with h | h
  · exact .inl (by rw [h])
  · exact .inr h

/-- A lexeme inside a tag is the same with more behind, unless it is a numeral that may go on. -/
theorem inTag?_append {d : Delimiters} {c : Char} {rest : List Char} {lexeme : Lexeme}
    (h : inTag? d c rest = some lexeme) (hcs : c :: rest = lexeme.raw ++ after) (hn : after ≠ [])
    (bs : List Char) :
    inTag? d c (rest ++ bs) = some lexeme ∨
      lexeme = verbatim .number lexeme.raw ∧ Pending lexeme.raw after bs := by
  unfold inTag? at h ⊢
  split at h
  · next hs =>
    cases h
    have hleft : (c :: rest).drop ((c :: rest).takeWhile Name.isPart).length = after :=
      drop_of_eq_append hcs
    rw [if_pos hs, ← List.cons_append, takeWhile_append_of_left (hleft ▸ hn)]
    exact .inl rfl
  · next hs =>
    rw [if_neg hs]
    split at h
    · next hd =>
      cases h
      rw [if_pos hd]
      rcases numberSpan_append hcs hn bs with hspan | hp
      · rw [← List.cons_append, hspan]
        exact .inl rfl
      · exact .inr ⟨rfl, hp⟩
    · next hd =>
      rw [if_neg hd]
      left
      split at h
      · next hq =>
        obtain ⟨⟨text, raw⟩, hspan, rfl⟩ := Option.map_eq_some_iff.mp h
        rw [if_pos hq, stringSpan_append hspan]
        rfl
      · next hq =>
        cases h
        have hleft : rest.drop (rest.takeWhile (isSymbolPart d)).length = after :=
          drop_of_eq_append (List.cons.inj hcs).2
        rw [if_neg hq, takeWhile_append_of_left (hleft ▸ hn)]

end Lexeme

namespace Token

variable {d : Delimiters}

/-- Tokens end with a tag that is closed straight after a numeral by a delimiter with which the
numeral would go on if a digit followed: by a point after digits, or by a sign after the mark of an
exponent. -/
inductive NumeralRunsOn (d : Delimiters) : List Token → Prop
  /-- A point closes the tag after digits. -/
  | point {before : List Token} {numeral closing : Token} (hd : d.closing = '.')
    (hn : numeral.kind = .number) (hs : ∀ c ∈ numeral.text.toList, c.isDigit = true)
    (hc : closing.kind = .tagEnd)
    (hp : closing.position = numeral.position + numeral.text.utf8ByteSize) :
    NumeralRunsOn d (before ++ [numeral, closing])
  /-- A sign closes the tag after digits, perhaps with a point, and the mark of an exponent. -/
  | sign {before : List Token} {numeral mark closing : Token}
    (hd : d.closing = '+' ∨ d.closing = '-') (hn : numeral.kind = .number)
    (hs : ∀ c ∈ numeral.text.toList, c.isDigit = true ∨ c = '.') (hm : mark.kind = .word)
    (he : mark.text = "e" ∨ mark.text = "E")
    (hp : mark.position = numeral.position + numeral.text.utf8ByteSize)
    (hc : closing.kind = .tagEnd) (hp' : closing.position = mark.position + 1) :
    NumeralRunsOn d (before ++ [numeral, mark, closing])

/-- What comes before does not matter. -/
theorem NumeralRunsOn.append_left {tokens : List Token} (h : NumeralRunsOn d tokens)
    (before : List Token) : NumeralRunsOn d (before ++ tokens) := by
  cases h with
  | point hd hn hs hc hp =>
    rw [← List.append_assoc]
    exact .point hd hn hs hc hp
  | sign hd hn hs hm he hp hc hp' =>
    rw [← List.append_assoc]
    exact .sign hd hn hs hm he hp hc hp'

/-- Two texts merge into one. -/
def merge (t u : Token) : Option Token :=
  if t.kind = .text ∧ u.kind = .text then some ⟨.text, t.text ++ u.text, t.position⟩ else none

/-- What is no text merges with nothing. -/
theorem merge_of_ne {t : Token} (h : t.kind ≠ .text) (u : Token) : merge t u = none :=
  if_neg fun hk => h hk.1

/-- Inside a tag one character is left only if it closes the tag. -/
theorem Rounds.singleton {opened position : Nat} {c : Char} {tokens : List Token}
    (h : Rounds d [] none (some opened) position [c] tokens) :
    c = d.closing ∧ tokens = [(Lexeme.verbatim .tagEnd [c]).token position] := by
  generalize hcs : [c] = cs at h
  cases h with
  | round hr h =>
    cases hr with
    | blank =>
      obtain ⟨-, hfront⟩ := List.cons.inj hcs
      exact absurd hfront.symm h.ne_nil
    | tagEnd =>
      obtain ⟨rfl, rfl⟩ := List.cons.inj hcs
      obtain ⟨rfl, -⟩ := h.eq_nil
      exact ⟨rfl, rfl⟩
    | part =>
      obtain ⟨-, hfront⟩ := List.cons.inj hcs
      exact absurd (List.append_eq_nil_iff.mp hfront.symm).2 h.ne_nil

/-- The mark of an exponent and a character are left inside a tag only if the character closes it
and the mark is a word. -/
theorem Rounds.mark {opened position : Nat} {mark c : Char} {tokens : List Token}
    (hd : Dialect.isUnusable d.closing = false) (hm : mark = 'e' ∨ mark = 'E')
    (hc : Name.isPart c = false) (h : Rounds d [] none (some opened) position [mark, c] tokens) :
    c = d.closing ∧ tokens = [(Lexeme.verbatim .word [mark]).token position,
      (Lexeme.verbatim .tagEnd [c]).token (position + 1)] := by
  have hstart : Name.isStart mark = true := by rcases hm with rfl | rfl <;> decide
  have hsize : Text.byteLength [mark] = 1 := by rcases hm with rfl | rfl <;> decide
  have hword : Lexeme.inTag? d mark [c] = some (.verbatim .word [mark]) := by
    unfold Lexeme.inTag?
    rw [if_pos hstart, List.takeWhile_cons, if_pos (Lexeme.isPart_of_isStart hstart),
      List.takeWhile_cons, if_neg (ne_true_of_eq_false hc)]
  generalize hcs : [mark, c] = cs at h
  cases h with
  | round hr h =>
    cases hr with
    | blank hb =>
      obtain ⟨rfl, -⟩ := List.cons.inj hcs
      rcases hm with rfl | rfl <;> exact absurd hb (by decide)
    | tagEnd =>
      obtain ⟨hmark, -⟩ := List.cons.inj hcs
      rw [← hmark] at hd
      rcases hm with rfl | rfl <;> exact absurd hd (by decide)
    | @part _ _ tail _ _ _ _ _ hl hraw =>
      rw [List.cons_append, List.cons.injEq] at hcs
      obtain ⟨rfl, hbehind⟩ := hcs
      rw [List.append_nil, ← hbehind, hword] at hl
      obtain rfl := Option.some.inj hl
      obtain rfl : [] = tail := (List.cons.inj hraw).2
      rw [List.nil_append] at hbehind
      rw [hsize, ← hbehind] at h
      obtain ⟨rfl, rfl⟩ := h.singleton
      exact ⟨rfl, rfl⟩

/-- What a numeral may go on with is the end of a tag. -/
theorem numeralRunsOn_of_pending {opened position : Nat} {span after bs : List Char}
    {tokens : List Token} (hd : Dialect.isUnusable d.closing = false)
    (hp : Lexeme.Pending span after bs)
    (h : Rounds d [] none (some opened) (position + Text.byteLength span) after tokens) :
    NumeralRunsOn d ((Lexeme.verbatim .number span).token position :: tokens) ∧
      Lexeme.BeginsWithDigit bs := by
  have hsize : (String.ofList span).utf8ByteSize = Text.byteLength span :=
    Text.utf8ByteSize_ofList span
  have hnumeral : ∀ {P : Char → Prop}, (∀ c ∈ span, P c) →
      ∀ c ∈ ((Lexeme.verbatim .number span).token position).text.toList, P c := by
    intro P hs c hc
    rw [Lexeme.token, String.toList_ofList] at hc
    exact hs c hc
  cases hp with
  | point hs hb =>
    obtain ⟨hc, rfl⟩ := h.singleton
    have hr : NumeralRunsOn d ([] ++ [(Lexeme.verbatim .number span).token position,
        (Lexeme.verbatim .tagEnd ['.']).token (position + Text.byteLength span)]) :=
      .point hc.symm rfl (hnumeral hs) rfl (congrArg (position + ·) hsize.symm)
    exact ⟨hr, hb⟩
  | mark hm =>
    obtain ⟨rfl, -⟩ := h.singleton
    have hu : Dialect.isUnusable d.closing = true := by rcases hm with hm | hm <;> rw [hm] <;> decide
    rw [hd] at hu
    cases hu
  | sign hm hs hspan hb =>
    rename_i mark sign
    have hpart : Name.isPart sign = false := by rcases hs with rfl | rfl <;> decide
    obtain ⟨rfl, rfl⟩ := h.mark hd hm hpart
    have hmark : String.ofList [mark] = "e" ∨ String.ofList [mark] = "E" :=
      hm.imp (congrArg fun c => String.ofList [c]) (congrArg fun c => String.ofList [c])
    have hr : NumeralRunsOn d ([] ++ [(Lexeme.verbatim .number span).token position,
        (Lexeme.verbatim .word [mark]).token (position + Text.byteLength span),
        (Lexeme.verbatim .tagEnd [d.closing]).token (position + Text.byteLength span + 1)]) :=
      .sign hs rfl (hnumeral hspan) rfl hmark (congrArg (position + ·) hsize.symm) rfl rfl
    exact ⟨hr, hb⟩

section rounds

variable {inside next : Option Nat} {cs bs raw front : List Char} {position : Nat}
  {read : Option Lexeme} {tokens tokens' : List Token}

/-- Where no text can be read and yet something is left, a tag opens that is closed later. -/
theorem Rounds.exists_two (hs : Lexeme.textSpan d.opening cs = ([], [])) (hn : cs ≠ [])
    (h : Rounds d [] none none position cs tokens) : ∃ c e rest, cs = c :: e :: rest := by
  cases h with
  | done => exact absurd rfl hn
  | round hr h =>
    cases hr with
    | text htext => exact absurd hs (Lexeme.textSpan_doubled_ne htext _)
    | tagStart =>
      obtain ⟨e, rest, rfl⟩ := List.exists_cons_of_ne_nil h.ne_nil
      exact ⟨d.opening, e, rest, rfl⟩

/-- A round that is not the last one is the same with more behind, unless a numeral runs on. -/
theorem Round.append (hd : Dialect.isUnusable d.closing = false)
    (hr : Round d position inside raw front read next) (hn : front ≠ [])
    (h : Rounds d [] none next (position + Text.byteLength raw) front tokens)
    (hrun : ¬(NumeralRunsOn d (ofRead position read ++ tokens) ∧ Lexeme.BeginsWithDigit bs)) :
    Round d position inside raw (front ++ bs) read next := by
  cases hr with
  | text htext hs =>
    obtain ⟨c, e, rest, rfl⟩ := h.exists_two hs hn
    exact .text htext (Lexeme.textSpan_append_of_nil hs bs)
  | tagStart hs =>
    obtain ⟨e, rest, rfl⟩ := List.exists_cons_of_ne_nil hn
    exact .tagStart (Lexeme.textSpan_append_of_nil hs bs)
  | blank hb => exact .blank hb
  | tagEnd hb => exact .tagEnd hb
  | @part _ c tail _ lexeme hb hc ho hl hraw =>
    have hcs : c :: (tail ++ front) = lexeme.raw ++ front := by rw [hraw, List.cons_append]
    refine .part hb hc ho ?_ hraw
    rw [← List.append_assoc]
    rcases Lexeme.inTag?_append hl hcs hn bs with hl | ⟨hnumeral, hp⟩
    · exact hl
    · rw [← hraw] at h
      rw [hnumeral] at hrun
      exact absurd (numeralRunsOn_of_pending hd hp h) hrun

/-- Text merges with the text behind it. -/
theorem Rounds.doubled_append {text : List Char} (hn : text ≠ [])
    (h : Rounds d [] none none (position + Text.byteLength (Lexeme.doubled d.opening text)) bs
      tokens) :
    Rounds d [] none none position (Lexeme.doubled d.opening text ++ bs)
      (seam merge [⟨.text, String.ofList text, position⟩] tokens) := by
  cases h with
  | done => exact .round (.text hn rfl) .done
  | round hr h =>
    cases hr with
    | @text text' _ hn' hs =>
      have hdoubled : Lexeme.doubled d.opening (text ++ text') =
          Lexeme.doubled d.opening text ++ Lexeme.doubled d.opening text' := List.flatMap_append
      rw [Nat.add_assoc, ← Text.byteLength_append, ← hdoubled] at h
      have hround := Rounds.round
        (.text (List.append_ne_nil_of_left_ne_nil hn text') hs : Round d position ..) h
      rw [hdoubled, List.append_assoc] at hround
      simpa [seam, merge, Lexeme.token] using hround
    | tagStart hs => exact .round (.text hn hs) (.round (.tagStart hs) h)

/-- The last round and what is read behind it. -/
theorem Round.append_rounds (hr : Round d position inside raw [] read none)
    (h : Rounds d [] none none (position + Text.byteLength raw) bs tokens) :
    Rounds d [] none inside position (raw ++ bs) (seam merge (ofRead position read) tokens) := by
  cases hr with
  | text hn => exact h.doubled_append hn
  | tagEnd hb =>
    have hkind : ((Lexeme.verbatim .tagEnd [d.closing]).token position).kind ≠ .text := nofun
    rw [ofRead_some, seam_cons_of_none (merge_of_ne hkind)]
    exact .round (.tagEnd hb) h

/-- The tokens of two texts in a row, unless a numeral at the end of the first one runs on into a
digit at the beginning of the second one. -/
theorem Rounds.append (hd : Dialect.isUnusable d.closing = false)
    (h : Rounds d [] none inside position cs tokens)
    (h' : Rounds d [] none none (position + Text.byteLength cs) bs tokens')
    (hrun : ¬(NumeralRunsOn d tokens ∧ Lexeme.BeginsWithDigit bs)) :
    Rounds d [] none inside position (cs ++ bs) (seam merge tokens tokens') := by
  induction h with
  | done => exact h'
  | @round _ next _ raw front read tokens hr h ih =>
    rw [Text.byteLength_append, ← Nat.add_assoc] at h'
    rw [List.append_nil] at hr
    by_cases hfront : front = []
    · -- this round is the last one
      subst hfront
      obtain ⟨rfl, rfl⟩ := h.eq_nil
      rw [List.append_nil, List.append_nil]
      exact hr.append_rounds h'
    · have ht : tokens ≠ [] := h.tokens_ne_nil hfront
      have hrest := ih h' fun hn => hrun ⟨hn.1.append_left _, hn.2⟩
      rw [seam_append_of_ne_nil _ ht, List.append_assoc]
      refine .round ?_ hrest
      rw [List.append_nil]
      exact hr.append hd hfront h hrun

end rounds

/-- Scanning two texts in a row. -/
theorem scan_append (hd : Dialect.isUnusable d.closing = false) {inside : Option Nat}
    {cs bs : List Char} {position : Nat} {tokens tokens' : List Token}
    (h : scan d inside cs position = .ok tokens)
    (h' : scan d none bs (position + Text.byteLength cs) = .ok tokens')
    (hr : ¬(NumeralRunsOn d tokens ∧ Lexeme.BeginsWithDigit bs)) :
    scan d inside (cs ++ bs) position = .ok (seam merge tokens tokens') :=
  scan_eq_ok_iff.mpr ((scan_eq_ok_iff.mp h).append hd (scan_eq_ok_iff.mp h') hr)

end Token

end TagTemplate
