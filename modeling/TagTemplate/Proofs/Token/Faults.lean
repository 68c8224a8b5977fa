import TagTemplate.Proofs.Token.Concatenation

/-!
# Faults that tokenizing finds

Tokenizing fails at a tag that has no end, at the opening delimiter inside a tag, and at a string that
has no end. What it complains about is written at the position that it reports; for the last two the
text before this position, taken alone, ends inside a tag. To see this the text is cut off there.
Every lexeme before the cut is read as it was, though some readers look further than they take: what
they did not take when they saw it is not taken either when it is gone.
-/

namespace TagTemplate

namespace Lexeme

section steady

variable {span first second : List Char → List Char}

/-- A reader that takes the same when what it leaves is cut short. -/
def Steady (span : List Char → List Char) : Prop :=
  ∀ taken left more, span (taken ++ (left ++ more)) = taken → span (taken ++ left) = taken

theorem takeWhile_eq_nil_of_append {p : Char → Bool} {left more : List Char}
    (h : (left ++ more).takeWhile p = []) : left.takeWhile p = [] := by
  cases left with
  | nil => rfl
  | cons c left =>
    rw [List.cons_append, List.takeWhile_cons] at h
    split at h
    · cases h
    · next hc => exact List.takeWhile_cons_of_neg hc

/-- Characters with a property are taken steadily. -/
theorem steady_takeWhile (p : Char → Bool) : Steady (List.takeWhile p) := by
  intro taken left more h
  have hall : ∀ c ∈ taken, p c = true := by
    intro c hc
    rw [← h] at hc
    exact List.mem_takeWhile_imp hc
  rw [List.takeWhile_append_of_pos hall] at h ⊢
  have hnone : (left ++ more).takeWhile p = [] := List.append_right_eq_self.mp h
  rw [takeWhile_eq_nil_of_append hnone, List.append_nil]

/-- One steady reader after the other is steady. -/
theorem Steady.andThen (hf : Steady first) (hs : Steady second) :
    Steady fun cs => first cs ++ second (cs.drop (first cs).length) := by
  intro taken left more h
  dsimp only at h ⊢
  generalize htaken : first (taken ++ (left ++ more)) = front at h
  obtain ⟨behind, rfl⟩ : ∃ behind, taken = front ++ behind := ⟨_, h.symm⟩
  rw [List.append_assoc] at h htaken ⊢
  rw [List.drop_left, List.append_cancel_left_eq] at h
  have hfront : first (front ++ (behind ++ left)) = front := by
    refine hf front (behind ++ left) more ?_
    rwa [List.append_assoc]
  rw [hfront, List.drop_left, hs behind left more h]

/-- The digits after a point are taken steadily. -/
theorem steady_fractionSpan : Steady fractionSpan := by
  intro taken left more h
  cases taken with
  | nil =>
    match left with
    | [] => rfl
    | [c] => simp [fractionSpan]
    | c :: e :: left =>
      by_cases hc : c = '.'
      · subst hc
        cases he : e.isDigit with
        | false => simp [fractionSpan, he]
        | true => simp [fractionSpan, he] at h
      · simp [fractionSpan, hc]
  | cons c taken =>
    by_cases hc : c = '.'
    · subst hc
      cases taken with
      | nil =>
        -- A point alone is not taken.
        cases hleft : left ++ more with
        | nil => simp [fractionSpan, hleft] at h
        | cons e rest => cases he : e.isDigit <;> simp [fractionSpan, hleft, he] at h
      | cons e taken =>
        cases he : e.isDigit with
        | false => simp [fractionSpan, he] at h
        | true =>
          simp only [List.cons_append, fractionSpan, he, if_true, List.cons.injEq, true_and] at h ⊢
          exact steady_takeWhile Char.isDigit taken left more h
    · simp [fractionSpan, hc] at h

/-- The sign of an exponent is taken steadily. -/
theorem steady_signSpan : Steady signSpan := by
  intro taken left more h
  cases taken with
  | nil => cases left with
    | nil => rfl
    | cons c left => exact h
  | cons c taken => exact h

/-- An exponent is taken steadily. -/
theorem steady_exponentSpan : Steady exponentSpan := by
  have hdigits : Steady fun cs =>
      signSpan cs ++ (cs.drop (signSpan cs).length).takeWhile Char.isDigit :=
    steady_signSpan.andThen (steady_takeWhile Char.isDigit)
  intro taken left more h
  cases taken with
  | nil =>
    cases left with
    | nil => rfl
    | cons c left =>
      by_cases hc : c = 'e' ∨ c = 'E'
      · rw [List.nil_append, List.cons_append, exponentSpan_mark hc] at h
        rw [List.nil_append, exponentSpan_mark hc]
        cases left with
        | nil => rfl
        | cons e left =>
          have hsign : signSpan (e :: left ++ more) = signSpan (e :: left) := rfl
          rw [hsign, List.drop_append_of_le_length (signSpan_isPrefix _).length_le] at h
          dsimp only at h ⊢
          split at h
          · next hnone =>
            rw [takeWhile_eq_nil_of_append (List.isEmpty_iff.mp hnone)]
            rfl
          · cases h
      · simp [exponentSpan, hc]
  | cons c taken =>
    by_cases hc : c = 'e' ∨ c = 'E'
    · rw [List.cons_append, exponentSpan_mark hc] at h ⊢
      dsimp only at h ⊢
      split at h
      · cases h
      · next hsome =>
        -- The digits are the ones that were there, so there are digits again.
        have hbefore := (List.cons.inj h).2
        have hafter := hdigits taken left more hbefore
        dsimp only at hafter
        have hsign : signSpan (taken ++ left) = signSpan (taken ++ (left ++ more)) := by
          cases taken with
          | nil => exact absurd (List.append_eq_nil_iff.mp hbefore).2 (by simpa using hsome)
          | cons e taken => rfl
        rw [hsign] at hafter ⊢
        have hsame := List.append_cancel_left (hafter.trans hbefore.symm)
        rw [hsame, if_neg hsome]
        exact h
    · simp [exponentSpan, hc] at h

/-- A numeral is taken steadily. -/
theorem steady_numberSpan : Steady numberSpan := by
  have hspan : numberSpan = fun cs => cs.takeWhile Char.isDigit ++
      fractionAndExponent (cs.drop (cs.takeWhile Char.isDigit).length) := by
    funext cs
    unfold numberSpan fractionAndExponent
    dsimp only
    rw [List.append_assoc]
  rw [hspan]
  exact (steady_takeWhile Char.isDigit).andThen
    (steady_fractionSpan.andThen steady_exponentSpan)

end steady

variable {d : Delimiters} {c : Char} {rest left more : List Char}

/-- A string is read from its span alone. -/
theorem stringSpan_raw {quote : Char} {cs text raw : List Char}
    (h : stringSpan quote cs = some (text, raw)) : stringSpan quote raw = some (text, raw) := by
  fun_induction stringSpan quote cs generalizing text raw with
  | case1 => cases h
  | case2 rest =>
    cases h
    exact stringSpan_quote quote []
  | case3 => cases h
  | case4 e after hq ih =>
    obtain ⟨⟨text', raw'⟩, hs, rfl, rfl⟩ := Option.map_eq_some_iff.mp h
    rw [stringSpan_escape hq, ih hs, Option.map_some]
  | case5 c rest hq hb ih =>
    obtain ⟨⟨text', raw'⟩, hs, rfl, rfl⟩ := Option.map_eq_some_iff.mp h
    rw [stringSpan_plain hq hb, ih hs, Option.map_some]

/-- Where no text is read, none is read when what follows is cut short. -/
theorem textSpan_eq_nil_of_append {opening : Char} {cs bs : List Char}
    (h : textSpan opening (cs ++ bs) = ([], [])) : textSpan opening cs = ([], []) := by
  match cs with
  | [] => rfl
  | c :: cs =>
    have hc : c = opening := eq_opening_of_textSpan (congrArg Prod.snd h)
    subst hc
    match cs with
    | [] => exact textSpan_last c
    | e :: cs =>
      by_cases he : e = c
      · rw [he, List.cons_append, List.cons_append, textSpan_opening] at h
        cases h
      · exact textSpan_tag he cs

/-- A lexeme inside a tag is read as it was when what follows is cut short. -/
theorem inTag?_of_append {rest' : List Char} {lexeme : Lexeme}
    (h : inTag? d c rest = some lexeme) (hcs : c :: rest = lexeme.raw ++ (left ++ more))
    (hcut : c :: rest' = lexeme.raw ++ left) : inTag? d c rest' = some lexeme := by
  unfold inTag? at h ⊢
  split at h
  · next hs =>
    cases h
    rw [if_pos hs]
    have hword : (c :: rest').takeWhile Name.isPart = (c :: rest).takeWhile Name.isPart := by
      rw [hcut]
      refine steady_takeWhile Name.isPart _ left more ?_
      rw [← hcs]
      rfl
    rw [hword]
  · next hs =>
    rw [if_neg hs]
    split at h
    · next hd =>
      cases h
      rw [if_pos hd]
      have hnumber : numberSpan (c :: rest') = numberSpan (c :: rest) := by
        rw [hcut]
        refine steady_numberSpan _ left more ?_
        rw [← hcs]
        rfl
      rw [hnumber]
    · next hd =>
      rw [if_neg hd]
      split at h
      · next hq =>
        obtain ⟨⟨text, raw⟩, hspan, rfl⟩ := Option.map_eq_some_iff.mp h
        have hrest : rest' = raw ++ left := (List.cons.inj hcut).2
        rw [if_pos hq, hrest, stringSpan_append (stringSpan_raw hspan)]
        rfl
      · next hq =>
        cases h
        generalize hspan : rest.takeWhile (isSymbolPart d) = span at hcs hcut ⊢
        have hrest : rest = span ++ (left ++ more) := (List.cons.inj hcs).2
        have hrest' : rest' = span ++ left := (List.cons.inj hcut).2
        have hsymbol : rest'.takeWhile (isSymbolPart d) = span := by
          rw [hrest']
          refine steady_takeWhile (isSymbolPart d) span left more ?_
          rw [← hrest, hspan]
        rw [if_neg hq, hsymbol]

/-- Only strings are without an end. -/
theorem eq_quote_of_inTag? (h : inTag? d c rest = none) : c = '"' ∨ c = '\'' := by
  unfold inTag? at h
  split at h
  · cases h
  · split at h
    · cases h
    · split at h
      · next hq => exact hq
      · cases h

end Lexeme

namespace Token

/-- What a scan complains about. It began inside a tag that has no end, or it found one; or it came
to an opening delimiter or to a string without an end when the text before ended inside a tag. -/
inductive Complaint (d : Delimiters) (inside : Option Nat) (cs : List Char) (position : Nat) :
    ParseError → Prop
  /-- The tag in which the scan began has no end. -/
  | unclosed {opened : Nat} (hi : inside = some opened) :
    Complaint d inside cs position (.unclosedTag opened)
  /-- A tag has no end. -/
  | unclosedTag {before after : List Char} (hcs : cs = before ++ d.opening :: after) :
    Complaint d inside cs position (.unclosedTag (position + Text.byteLength before))
  /-- The opening delimiter is inside a tag. -/
  | malformedTag {before after : List Char} {opened : Nat} (hcs : cs = before ++ d.opening :: after)
    (hbefore : scan d inside before position = .error (.unclosedTag opened)) :
    Complaint d inside cs position
      (.malformedTag (position + Text.byteLength before) (.openingInside d.opening))
  /-- A string inside a tag has no end. -/
  | unterminatedString {before after : List Char} {quote : Char} {opened : Nat}
    (hcs : cs = before ++ quote :: after) (hq : quote = '"' ∨ quote = '\'')
    (hbefore : scan d inside before position = .error (.unclosedTag opened)) :
    Complaint d inside cs position (.unterminatedString (position + Text.byteLength before))

variable {d : Delimiters} {inside after next : Option Nat} {cs raw front left more rest : List Char}
  {position : Nat} {read : Option Lexeme} {tokens : List Token} {error : ParseError}

/-- A round is the same when what follows is cut short. -/
theorem Round.cut (h : Round d position inside raw (left ++ more) read next) :
    Round d position inside raw left read next := by
  cases h with
  | text hn hs => exact .text hn (Lexeme.textSpan_eq_nil_of_append hs)
  | tagStart hs =>
    rw [← List.cons_append] at hs
    exact .tagStart (Lexeme.textSpan_eq_nil_of_append hs)
  | blank hb => exact .blank hb
  | tagEnd hb => exact .tagEnd hb
  | @part _ c tail _ lexeme hb hc ho hl hraw =>
    have hwhole : c :: (tail ++ (left ++ more)) = lexeme.raw ++ (left ++ more) := by
      rw [hraw, List.cons_append]
    have hcut : c :: (tail ++ left) = lexeme.raw ++ left := by rw [hraw, List.cons_append]
    exact .part hb hc ho (Lexeme.inTag?_of_append hl hwhole hcut) hraw

/-- So are rounds when what follows them is cut off. -/
theorem Rounds.cut (h : Rounds d rest after inside position front tokens) :
    Rounds d [] after inside position front tokens := by
  induction h with
  | done => exact .done
  | @round _ _ _ _ front _ _ hr _ ih =>
    have hcut := hr.cut
    rw [← List.append_nil front] at hcut
    exact .round hcut ih

/-- Where rounds end inside a tag, the text that they take ends there too. -/
theorem Rounds.scan_eq_unclosed {opened : Nat}
    (h : Rounds d rest (some opened) inside position front tokens) :
    scan d inside front position = .error (.unclosedTag opened) := by
  have hscan := h.cut.scan_eq
  rw [List.append_nil, scan] at hscan
  exact hscan

/-- Rounds that end inside a tag begin inside it, or it opens where one of them takes the opening
delimiter. -/
theorem Rounds.exists_opening {opened : Nat}
    (h : Rounds d rest (some opened) inside position front tokens) :
    inside = some opened ∨ ∃ before behind, front = before ++ d.opening :: behind ∧
      opened = position + Text.byteLength before := by
  induction h with
  | done => exact .inl rfl
  | @round _ _ position raw front _ _ hr _ ih =>
    rcases ih with hnext | ⟨before, behind, rfl, rfl⟩
    · subst hnext
      cases hr with
      | tagStart => exact .inr ⟨[], front, rfl, rfl⟩
      | blank => exact .inl rfl
      | part => exact .inl rfl
    · refine .inr ⟨raw ++ before, behind, (List.append_assoc ..).symm, ?_⟩
      rw [Text.byteLength_append, Nat.add_assoc]

/-- Every failure of a scan is a complaint. -/
theorem complaint_of_scan (h : scan d inside cs position = .error error) :
    Complaint d inside cs position error := by
  obtain ⟨front, rest, tokens, opened, rfl, hrounds, hstops⟩ := exists_rounds_of_error h
  have hfront := hrounds.scan_eq_unclosed
  cases hstops with
  | unclosed =>
    rcases hrounds.exists_opening with hi | ⟨before, behind, rfl, rfl⟩
    · exact .unclosed hi
    · rw [List.append_nil]
      exact .unclosedTag rfl
  | opening => exact .malformedTag rfl hfront
  | string _ _ _ hl => exact .unterminatedString rfl (Lexeme.eq_quote_of_inTag? hl) hfront

end Token

end TagTemplate
