import TagTemplate.Token

/-!
# Raw spans of lexemes

What is written in a template for each kind of token. Text has every opening delimiter doubled, a
string stands between quotes with its special characters escaped, and every other token is
written as it is. The readers of the tokenizer take such a span from the front of a template.
-/

namespace TagTemplate

namespace Text

@[simp] theorem byteLength_cons (c : Char) (cs : List Char) :
    byteLength (c :: cs) = c.utf8Size + byteLength cs := rfl

@[simp] theorem byteLength_append (cs cs' : List Char) :
    byteLength (cs ++ cs') = byteLength cs + byteLength cs' := by
  induction cs with
  | nil => exact (Nat.zero_add _).symm
  | cons c cs ih => rw [List.cons_append, byteLength_cons, byteLength_cons, ih, Nat.add_assoc]

/-- Characters take up bytes. -/
theorem byteLength_pos {cs : List Char} (h : cs ≠ []) : 0 < byteLength cs := by
  cases cs with
  | nil => exact absurd rfl h
  | cons c cs =>
    have hc := c.utf8Size_pos
    rw [byteLength_cons]
    omega

end Text

/-- A span followed by a span of what is left is a span. -/
theorem prefix_append_of_drop {α : Type} {first second all : List α} (h : first <+: all)
    (hd : second <+: all.drop first.length) : first ++ second <+: all := by
  obtain ⟨rest, rfl⟩ := h
  rw [List.drop_left] at hd
  exact (List.prefix_append_right_inj first).mpr hd

/-- What is left after a span that begins with the first element. -/
theorem drop_pred_of_eq_append {α : Type} {a : α} {rest span after : List α}
    (h : a :: rest = span ++ after) (hn : span ≠ []) : rest.drop (span.length - 1) = after := by
  cases span with
  | nil => exact absurd rfl hn
  | cons b span =>
    obtain ⟨-, rfl⟩ := List.cons.inj h
    exact List.drop_left

/-- Where a token stands. -/
inductive Place where
  /-- Outside tags. -/
  | outside
  /-- Inside a tag. -/
  | inside

/-- Where a token of a kind may stand, and where what comes after it stands. -/
inductive TokenKind.Leads : TokenKind → Place → Place → Prop
  /-- Text stands outside tags. -/
  | text : Leads .text .outside .outside
  /-- A tag opens outside tags. -/
  | tagStart : Leads .tagStart .outside .inside
  /-- A tag closes inside it. -/
  | tagEnd : Leads .tagEnd .inside .outside
  /-- A word stands inside a tag. -/
  | word : Leads .word .inside .inside
  /-- So does a numeral. -/
  | number : Leads .number .inside .inside
  /-- So does a string. -/
  | string : Leads .string .inside .inside
  /-- So does a run of symbols. -/
  | symbol : Leads .symbol .inside .inside

/-- The kinds of tokens that stand between the delimiters of a tag. -/
def TokenKind.parts : List TokenKind := [.word, .number, .string, .symbol]

/-- What stands inside a tag and leaves it open stands between its delimiters. -/
theorem TokenKind.Leads.mem_parts {kind : TokenKind} (h : kind.Leads .inside .inside) :
    kind ∈ parts := by
  cases h <;> decide

namespace Lexeme

/-- Text with every opening delimiter doubled. -/
def doubled (opening : Char) (text : List Char) : List Char :=
  text.flatMap fun c => if c = opening then [c, c] else [c]

/-- What is written between quotes for a text. A backslash escapes the character after it; no
other character is the quote or a backslash. -/
inductive Escapes (quote : Char) : List Char → List Char → Prop
  /-- Nothing is written for nothing. -/
  | nil : Escapes quote [] []
  /-- A plain character is written as it is. -/
  | plain {c : Char} {written text : List Char} (hq : c ≠ quote) (hb : c ≠ '\\')
      (h : Escapes quote written text) : Escapes quote (c :: written) (c :: text)
  /-- An escaped character follows a backslash. -/
  | escaped {c : Char} {written text : List Char} (h : Escapes quote written text) :
      Escapes quote ('\\' :: c :: written) (unescape c :: text)

/-- Lexemes that are written as their kind requires. -/
inductive Written (d : Delimiters) : Lexeme → Prop
  /-- Text is not empty, and its opening delimiters are doubled. -/
  | text {text : List Char} (hn : text ≠ []) : Written d ⟨.text, text, doubled d.opening text⟩
  /-- The delimiter that opens a tag. -/
  | tagStart : Written d (verbatim .tagStart [d.opening])
  /-- The delimiter that closes a tag. -/
  | tagEnd : Written d (verbatim .tagEnd [d.closing])
  /-- A word is written as it is. -/
  | word {raw : List Char} (hn : raw ≠ []) : Written d (verbatim .word raw)
  /-- So is a numeral. -/
  | number {raw : List Char} (hn : raw ≠ []) : Written d (verbatim .number raw)
  /-- So is a run of symbols. -/
  | symbol {raw : List Char} (hn : raw ≠ []) : Written d (verbatim .symbol raw)
  /-- A string is written between a quote and the first unescaped one after it. -/
  | string {quote : Char} {written text : List Char} (hq : quote = '"' ∨ quote = '\'')
      (h : Escapes quote written text) :
      Written d ⟨.string, text, quote :: written ++ [quote]⟩

theorem doubled_cons (opening c : Char) (text : List Char) :
    doubled opening (c :: text) =
      (if c = opening then [c, c] else [c]) ++ doubled opening text := rfl

/-- Something is written for every text. -/
theorem doubled_ne_nil (opening : Char) {text : List Char} (h : text ≠ []) :
    doubled opening text ≠ [] := by
  cases text with
  | nil => exact absurd rfl h
  | cons c text =>
    rw [doubled_cons]
    split <;> exact List.cons_ne_nil _ _

/-- Something is written for every lexeme. -/
theorem Written.raw_ne_nil {d : Delimiters} {lexeme : Lexeme} (h : lexeme.Written d) :
    lexeme.raw ≠ [] := by
  cases h with
  | text hn => exact doubled_ne_nil d.opening hn
  | tagStart => exact List.cons_ne_nil _ _
  | tagEnd => exact List.cons_ne_nil _ _
  | word hn => exact hn
  | number hn => exact hn
  | symbol hn => exact hn
  | string _ _ => exact List.cons_ne_nil _ _

theorem textSpan_plain {opening c : Char} (h : c ≠ opening) (cs : List Char) :
    textSpan opening (c :: cs) = (c :: (textSpan opening cs).1, c :: (textSpan opening cs).2) := by
  conv => lhs; unfold textSpan
  rw [if_neg h]

theorem textSpan_opening (opening : Char) (cs : List Char) :
    textSpan opening (opening :: opening :: cs) =
      (opening :: (textSpan opening cs).1, opening :: opening :: (textSpan opening cs).2) :=
  (if_pos rfl).trans (if_pos rfl)

theorem textSpan_tag {opening c : Char} (h : c ≠ opening) (cs : List Char) :
    textSpan opening (opening :: c :: cs) = ([], []) :=
  (if_pos rfl).trans (if_neg h)

theorem textSpan_last (opening : Char) : textSpan opening [opening] = ([], []) := if_pos rfl

/-- The reader of text takes a text with its opening delimiters doubled, and leaves nothing that
it would take. -/
theorem textSpan_spec (opening : Char) (cs : List Char) :
    ∃ after, cs = (textSpan opening cs).2 ++ after ∧
      (textSpan opening cs).2 = doubled opening (textSpan opening cs).1 ∧
      textSpan opening after = ([], []) := by
  fun_induction textSpan opening cs with
  | case1 => exact ⟨[], rfl, rfl, rfl⟩
  | case2 after text raw hs ih =>
    obtain ⟨rest, hrest, hraw, hnone⟩ := ih
    rw [hs] at hrest hraw
    refine ⟨rest, ?_, ?_, hnone⟩
    · rw [hrest]
      rfl
    · rw [doubled_cons, if_pos rfl, ← hraw]
      rfl
  | case3 d after hd => exact ⟨opening :: d :: after, rfl, rfl, textSpan_tag hd after⟩
  | case4 => exact ⟨[opening], rfl, rfl, textSpan_last opening⟩
  | case5 c rest hc text raw hs ih =>
    obtain ⟨after, hrest, hraw, hnone⟩ := ih
    rw [hs] at hrest hraw
    refine ⟨after, ?_, ?_, hnone⟩
    · rw [hrest]
      rfl
    · rw [doubled_cons, if_neg hc, ← hraw]
      rfl

/-- A text that begins with doubled delimiters is read up to where the rest is read. -/
theorem textSpan_doubled_append (opening : Char) (text cs : List Char) :
    textSpan opening (doubled opening text ++ cs) =
      (text ++ (textSpan opening cs).1, doubled opening text ++ (textSpan opening cs).2) := by
  induction text with
  | nil => rfl
  | cons c text ih =>
    rw [doubled_cons]
    by_cases hc : c = opening
    · subst hc
      rw [if_pos rfl, List.append_assoc, List.cons_append, List.cons_append, List.nil_append,
        textSpan_opening, ih]
      rfl
    · rw [if_neg hc, List.append_assoc, List.cons_append, List.nil_append, textSpan_plain hc, ih]
      rfl

/-- Where something is written for a text, text is read. -/
theorem textSpan_doubled_ne {opening : Char} {text : List Char} (h : text ≠ []) (cs : List Char) :
    textSpan opening (doubled opening text ++ cs) ≠ ([], []) := by
  rw [textSpan_doubled_append]
  exact fun he => h (List.append_eq_nil_iff.mp (congrArg Prod.fst he)).1

/-- Where text ends before the first character, that is the opening delimiter. -/
theorem eq_opening_of_textSpan {opening c : Char} {rest : List Char}
    (h : (textSpan opening (c :: rest)).2 = []) : c = opening := by
  by_cases hc : c = opening
  · exact hc
  · rw [textSpan_plain hc] at h
    cases h

/-- Where nothing is read there is no text. -/
theorem text_eq_nil_of_textSpan {opening : Char} {cs text raw : List Char}
    (h : textSpan opening cs = (text, raw)) (hn : raw = []) : text = [] := by
  obtain ⟨-, -, hraw, -⟩ := textSpan_spec opening cs
  rw [h] at hraw
  cases text with
  | nil => rfl
  | cons c text =>
    exact absurd (hraw.symm.trans hn) (doubled_ne_nil opening (List.cons_ne_nil c text))

/-- The reader of strings takes a text with its special characters escaped, and the quote after
it. -/
theorem stringSpan_spec {quote : Char} {cs text raw : List Char}
    (h : stringSpan quote cs = some (text, raw)) :
    ∃ written, raw = written ++ [quote] ∧ Escapes quote written text ∧ raw <+: cs := by
  fun_induction stringSpan quote cs generalizing text raw with
  | case1 => cases h
  | case2 rest =>
    cases h
    exact ⟨[], rfl, .nil, List.prefix_append [quote] rest⟩
  | case3 => cases h
  | case4 c after hq ih =>
    obtain ⟨⟨text', raw'⟩, hs, heq⟩ := Option.map_eq_some_iff.mp h
    cases heq
    obtain ⟨written, rfl, hw, hp⟩ := ih hs
    refine ⟨'\\' :: c :: written, rfl, .escaped hw, ?_⟩
    exact (List.prefix_cons_inj _).mpr ((List.prefix_cons_inj _).mpr hp)
  | case5 c rest hq hb ih =>
    obtain ⟨⟨text', raw'⟩, hs, heq⟩ := Option.map_eq_some_iff.mp h
    cases heq
    obtain ⟨written, rfl, hw, hp⟩ := ih hs
    exact ⟨c :: written, rfl, .plain hq hb hw, (List.prefix_cons_inj _).mpr hp⟩

/-- The fraction of a numeral stands at the front of what it is read from. -/
theorem fractionSpan_isPrefix (cs : List Char) : fractionSpan cs <+: cs := by
  unfold fractionSpan
  split
  · next c rest =>
    split
    · refine (List.prefix_cons_inj _).mpr ((List.prefix_cons_inj _).mpr ?_)
      exact List.takeWhile_prefix _
    · exact List.nil_prefix
  · exact List.nil_prefix

/-- So does the sign of an exponent. -/
theorem signSpan_isPrefix (cs : List Char) : signSpan cs <+: cs := by
  unfold signSpan
  split
  · next c rest =>
    split
    · exact List.prefix_append [c] rest
    · exact List.nil_prefix
  · exact List.nil_prefix

/-- So does an exponent. -/
theorem exponentSpan_isPrefix (cs : List Char) : exponentSpan cs <+: cs := by
  unfold exponentSpan
  split
  · exact List.nil_prefix
  · next c rest =>
    split
    · dsimp only
      split
      · exact List.nil_prefix
      · refine (List.prefix_cons_inj c).mpr ?_
        exact prefix_append_of_drop (signSpan_isPrefix rest) (List.takeWhile_prefix _)
    · exact List.nil_prefix

/-- So does a numeral. -/
theorem numberSpan_isPrefix (cs : List Char) : numberSpan cs <+: cs := by
  unfold numberSpan
  dsimp only
  rw [List.append_assoc]
  refine prefix_append_of_drop (List.takeWhile_prefix _) ?_
  exact prefix_append_of_drop (fractionSpan_isPrefix _) (exponentSpan_isPrefix _)

/-- A numeral that begins with a digit is not empty. -/
theorem numberSpan_ne_nil {c : Char} (rest : List Char) (h : c.isDigit = true) :
    numberSpan (c :: rest) ≠ [] := by
  unfold numberSpan
  dsimp only
  rw [List.takeWhile_cons, if_pos h]
  exact List.cons_ne_nil _ _

/-- A character that a name may start with may follow in a name. -/
theorem isPart_of_isStart {c : Char} (h : Name.isStart c = true) : Name.isPart c = true := by
  unfold Name.isStart at h
  unfold Name.isPart
  rw [Bool.or_eq_true] at h
  rcases h with ha | hu
  · rw [ha, Bool.true_or, Bool.true_or]
  · rw [hu, Bool.or_true]

/-- A lexeme inside a tag is written as its kind requires, at the front of what it is read from,
and what comes after it stands inside the tag as well. -/
theorem inTag?_spec {d : Delimiters} {c : Char} {rest : List Char} {lexeme : Lexeme}
    (h : inTag? d c rest = some lexeme) :
    lexeme.Written d ∧ lexeme.raw <+: c :: rest ∧
      lexeme.kind.Leads .inside .inside := by
  unfold inTag? at h
  split at h
  · next hs =>
    cases h
    have hn : (c :: rest).takeWhile Name.isPart ≠ [] := by
      rw [List.takeWhile_cons, if_pos (isPart_of_isStart hs)]
      exact List.cons_ne_nil _ _
    exact ⟨.word hn, List.takeWhile_prefix _, .word⟩
  · split at h
    · next hd =>
      cases h
      exact ⟨.number (numberSpan_ne_nil rest hd), numberSpan_isPrefix _, .number⟩
    · split at h
      · next hq =>
        obtain ⟨⟨text, raw⟩, hs, rfl⟩ := Option.map_eq_some_iff.mp h
        obtain ⟨written, rfl, hw, hp⟩ := stringSpan_spec hs
        exact ⟨.string hq hw, (List.prefix_cons_inj c).mpr hp, .string⟩
      · cases h
        have hp : c :: rest.takeWhile (isSymbolPart d) <+: c :: rest :=
          (List.prefix_cons_inj c).mpr (List.takeWhile_prefix _)
        exact ⟨.symbol (List.cons_ne_nil _ _), hp, .symbol⟩

end Lexeme

end TagTemplate
