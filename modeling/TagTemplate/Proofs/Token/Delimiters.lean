import TagTemplate.Proofs.Dialect.Registered
import TagTemplate.Proofs.Token.Concatenation

/-!
# Delimiters inside tokens

The delimiters of a dialect are neither letters or digits nor blanks or quotes. That keeps them out
of runs of symbols, but not out of words and numerals: a word may hold an underscore, and a numeral a
point or a sign. A tag ends at the first closing delimiter outside quoted strings exactly if none of
its words and numerals holds one.
-/

namespace TagTemplate

/-- Characters that can delimit tags and yet may be a part of a token. -/
inductive TokenKind.MayHold : TokenKind → Char → Prop
  /-- A word may hold an underscore. -/
  | underscore : MayHold .word '_'
  /-- A numeral may hold a point. -/
  | point : MayHold .number '.'
  /-- A numeral may hold the sign of its exponent. -/
  | sign {c : Char} (hc : c = '+' ∨ c = '-') : MayHold .number c

namespace Lexeme

/-- Characters in which the closing delimiter occurs nowhere but in quoted strings. -/
inductive Unclosed (d : Delimiters) : List Char → Prop
  /-- There are no characters. -/
  | nil : Unclosed d []
  /-- A character outside strings is not the closing delimiter. -/
  | plain {c : Char} {cs : List Char} (hc : c ≠ d.closing) (hq : c ≠ '"' ∧ c ≠ '\'')
      (h : Unclosed d cs) : Unclosed d (c :: cs)
  /-- A string may hold anything up to its closing quote. -/
  | string {quote : Char} {written text cs : List Char} (hq : quote = '"' ∨ quote = '\'')
      (hw : Escapes quote written text) (h : Unclosed d cs) :
      Unclosed d (quote :: written ++ [quote] ++ cs)

variable {d : Delimiters} {c x : Char} {rest cs : List Char} {lexeme : Lexeme}

/-- A string ends at the first quote that is not escaped. -/
theorem Escapes.append_inj {quote : Char} (hq : quote ≠ '\\')
    {written written' text text' cs cs' : List Char} (h : Escapes quote written text)
    (h' : Escapes quote written' text')
    (he : written ++ quote :: cs = written' ++ quote :: cs') : cs = cs' := by
  induction h generalizing written' text' with
  | nil => cases h' with
    | nil => exact (List.cons.inj he).2
    | plain hc => exact absurd (List.cons.inj he).1.symm hc
    | escaped => exact absurd (List.cons.inj he).1 hq
  | plain hc hb _ ih => cases h' with
    | nil => exact absurd (List.cons.inj he).1 hc
    | plain _ _ h' => exact ih h' (List.cons.inj he).2
    | escaped => exact absurd (List.cons.inj he).1 hb
  | escaped _ ih => cases h' with
    | nil => exact absurd (List.cons.inj he).1.symm hq
    | plain _ hb => exact absurd (List.cons.inj he).1.symm hb
    | escaped h' => exact ih h' (List.cons.inj (List.cons.inj he).2).2

/-- A character outside strings leaves a tag open if it is not the closing delimiter. -/
theorem unclosed_cons_iff (hq : c ≠ '"' ∧ c ≠ '\'') :
    Unclosed d (c :: cs) ↔ c ≠ d.closing ∧ Unclosed d cs := by
  refine ⟨fun h => ?_, fun h => .plain h.1 hq h.2⟩
  generalize hcs : c :: cs = all at h
  cases h with
  | nil => cases hcs
  | plain hc _ h =>
    cases hcs
    exact ⟨hc, h⟩
  | string hquote =>
    obtain ⟨rfl, -⟩ := List.cons.inj hcs
    exact (hquote.elim hq.1 hq.2).elim

/-- Characters outside strings leave a tag open if the closing delimiter is not among them. -/
theorem unclosed_append_iff {raw : List Char} (hq : ∀ c ∈ raw, c ≠ '"' ∧ c ≠ '\'') :
    Unclosed d (raw ++ cs) ↔ d.closing ∉ raw ∧ Unclosed d cs := by
  induction raw with
  | nil => simp
  | cons c raw ih =>
    rw [List.forall_mem_cons] at hq
    rw [List.cons_append, unclosed_cons_iff hq.1, ih hq.2, List.mem_cons, not_or, and_assoc]
    exact and_congr_left' ne_comm

/-- A string leaves a tag open, whatever it holds. -/
theorem unclosed_string_iff {quote : Char} {written text : List Char}
    (hq : quote = '"' ∨ quote = '\'') (hw : Escapes quote written text) :
    Unclosed d (quote :: written ++ [quote] ++ cs) ↔ Unclosed d cs := by
  refine ⟨fun h => ?_, .string hq hw⟩
  generalize hall : quote :: written ++ [quote] ++ cs = all at h
  cases h with
  | nil => cases hall
  | plain _ hplain =>
    obtain ⟨rfl, -⟩ := List.cons.inj hall
    exact (hq.elim hplain.1 hplain.2).elim
  | @string quote' written' _ cs' _ hw' h =>
    obtain ⟨rfl, he⟩ := List.cons.inj hall
    have hb : quote ≠ '\\' := by rcases hq with rfl | rfl <;> decide
    simp only [List.append_assoc, List.singleton_append, List.append_eq] at he
    rwa [hw.append_inj hb hw' he]

/-- The sign of an exponent is a plus or a minus. -/
theorem eq_of_mem_signSpan (h : x ∈ signSpan cs) : x = '+' ∨ x = '-' := by
  unfold signSpan at h
  split at h
  · split at h
    · next hs =>
      rw [List.mem_singleton.mp h]
      exact hs
    · cases h
  · cases h

/-- An exponent consists of its mark, a sign and digits. -/
theorem eq_of_mem_exponentSpan (h : x ∈ exponentSpan cs) :
    (x = 'e' ∨ x = 'E') ∨ (x = '+' ∨ x = '-') ∨ x.isDigit = true := by
  unfold exponentSpan at h
  split at h
  · cases h
  · next mark rest =>
    split at h
    · next hm =>
      dsimp only at h
      split at h
      · cases h
      · rw [List.cons_append, List.mem_cons, List.mem_append] at h
        rcases h with rfl | hs | hd
        · exact .inl hm
        · exact .inr (.inl (eq_of_mem_signSpan hs))
        · exact .inr (.inr (List.mem_takeWhile_imp hd))
    · cases h

/-- A numeral consists of digits, a point, and the mark and the sign of an exponent. -/
theorem eq_of_mem_numberSpan (h : x ∈ numberSpan cs) :
    x.isDigit = true ∨ x = '.' ∨ (x = 'e' ∨ x = 'E') ∨ x = '+' ∨ x = '-' := by
  unfold numberSpan at h
  dsimp only at h
  rcases List.mem_append.mp h with h | h
  · rcases List.mem_append.mp h with h | h
    · exact .inl (List.mem_takeWhile_imp h)
    · rcases isDigit_or_eq_of_mem_fractionSpan h with hd | hp
      · exact .inl hd
      · exact .inr (.inl hp)
  · rcases eq_of_mem_exponentSpan h with hm | hs | hd
    · exact .inr (.inr (.inl hm))
    · exact .inr (.inr (.inr hs))
    · exact .inl hd

/-- A digit delimits nothing. -/
theorem isUnusable_of_isDigit (h : x.isDigit = true) : Dialect.isUnusable x = true := by
  have hn : Text.isNumeric x = true := by
    simp only [Char.isDigit, Bool.and_eq_true, decide_eq_true_eq] at h
    have hlow : ¬x.toNat < 0x30 := Nat.not_lt.mpr (UInt32.le_iff_toNat_le.mp h.1)
    have hhigh : x.toNat ≤ 0x39 := UInt32.le_iff_toNat_le.mp h.2
    rw [Text.isNumeric, Text.numericRanges, Text.CodeRanges.contains, if_neg hlow,
      decide_eq_true hhigh, Bool.true_or]
  simp [Dialect.isUnusable, hn]

/-- A character that may delimit tags is in a word, a numeral or a run of symbols only if the kind
of token may hold it, unless it begins the run. -/
theorem mayHold_of_inTag? (hx : Dialect.isUnusable x = false)
    (hd : x = d.opening ∨ x = d.closing) (hne : c ≠ x) (h : inTag? d c rest = some lexeme)
    (hk : lexeme.kind ≠ .string) (hm : x ∈ lexeme.text) : lexeme.kind.MayHold x := by
  have hmark : ¬(x = 'e' ∨ x = 'E') := by
    rintro (rfl | rfl) <;> exact absurd hx (by decide)
  have hdigit : ¬x.isDigit = true := fun hd => by
    rw [isUnusable_of_isDigit hd] at hx
    cases hx
  unfold inTag? at h
  split at h
  · cases h
    have hp : Name.isPart x = true := List.mem_takeWhile_imp hm
    simp only [Dialect.isUnusable, Bool.or_eq_false_iff] at hx
    simp only [Name.isPart, hx, Bool.false_or, beq_iff_eq] at hp
    rw [hp]
    exact .underscore
  · split at h
    · cases h
      rcases eq_of_mem_numberSpan hm with hd | rfl | he | hs
      · exact absurd hd hdigit
      · exact .point
      · exact absurd he hmark
      · exact .sign hs
    · split at h
      · obtain ⟨_, _, rfl⟩ := Option.map_eq_some_iff.mp h
        exact absurd rfl hk
      · cases h
        rcases List.mem_cons.mp hm with rfl | hm
        · exact absurd rfl hne
        · have hp : isSymbolPart d x = true := List.mem_takeWhile_imp hm
          rcases hd with rfl | rfl <;> simp [isSymbolPart] at hp

/-- A lexeme inside a tag leaves the tag open, unless it holds the closing delimiter and is no
string. -/
theorem unclosed_raw_append_iff (h : inTag? d c rest = some lexeme) :
    Unclosed d (lexeme.raw ++ cs) ↔
      (lexeme.kind ≠ .string → d.closing ∉ lexeme.text) ∧ Unclosed d cs := by
  have hverbatim : ∀ {kind : TokenKind} {raw : List Char}, kind ≠ .string →
      (∀ x ∈ raw, x ≠ '"' ∧ x ≠ '\'') → (Unclosed d ((verbatim kind raw).raw ++ cs) ↔
        ((verbatim kind raw).kind ≠ .string → d.closing ∉ (verbatim kind raw).text) ∧
          Unclosed d cs) := by
    intro kind raw hk hq
    rw [verbatim, unclosed_append_iff hq]
    exact and_congr_left' ⟨fun hm _ => hm, fun hm => hm hk⟩
  unfold inTag? at h
  split at h
  · cases h
    refine hverbatim (by decide) fun x hx => ?_
    have hp : Name.isPart x = true := List.mem_takeWhile_imp hx
    constructor <;> rintro rfl <;> exact absurd hp (by decide)
  · split at h
    · cases h
      refine hverbatim (by decide) fun x hx => ?_
      have hp := eq_of_mem_numberSpan hx
      constructor <;> rintro rfl <;> exact absurd hp (by decide)
    · split at h
      · next hquote =>
        obtain ⟨⟨text, raw⟩, hs, rfl⟩ := Option.map_eq_some_iff.mp h
        obtain ⟨written, rfl, hw, -⟩ := stringSpan_spec hs
        refine (unclosed_string_iff hquote hw).trans ⟨fun hu => ⟨fun hk => absurd rfl hk, hu⟩, ?_⟩
        exact fun hu => hu.2
      · next hquote =>
        cases h
        rw [not_or] at hquote
        refine hverbatim (by decide) fun x hx => ?_
        rcases List.mem_cons.mp hx with rfl | hx
        · exact hquote
        · have hp : isSymbolPart d x = true := List.mem_takeWhile_imp hx
          simp only [isSymbolPart, Bool.not_eq_true', Bool.or_eq_false_iff, beq_eq_false_iff_ne] at hp
          exact ⟨hp.1.1.1.2, hp.1.1.2⟩

end Lexeme

namespace Token

variable {d : Delimiters} {inside : Option Nat} {cs : List Char} {position : Nat}
  {tokens : List Token}

/-- A tag whose first character behind the opening delimiter is at a position: there `interior` is
written and then the closing delimiter, and the tokens are those of the tag, `inner`, the one that
closes it, and others. -/
structure Closes (d : Delimiters) (cs : List Char) (position : Nat) (tokens inner : List Token)
    (interior : List Char) : Prop where
  /-- What is written. -/
  written : ∃ after, cs = interior ++ d.closing :: after
  /-- The tokens. -/
  read : ∃ closer rest, tokens = inner ++ closer :: rest ∧ closer.kind = .tagEnd ∧
    closer.position = position + Text.byteLength interior
  /-- The tokens of the tag stand between its delimiters. -/
  parts : ∀ token ∈ inner, token.kind ∈ TokenKind.parts

/-- A tag goes on over a blank. -/
theorem Closes.blank {inner : List Token} {interior : List Char} {c : Char}
    (h : Closes d cs (position + c.utf8Size) tokens inner interior) :
    Closes d (c :: cs) position tokens inner (c :: interior) where
  written := by
    obtain ⟨after, rfl⟩ := h.written
    exact ⟨after, rfl⟩
  read := by
    obtain ⟨closer, rest, ht, hk, hp⟩ := h.read
    exact ⟨closer, rest, ht, hk, by rw [hp, Text.byteLength_cons, Nat.add_assoc]⟩
  parts := h.parts

/-- A tag goes on after a lexeme. -/
theorem Closes.lexeme {inner : List Token} {interior : List Char} {lexeme : Lexeme}
    (h : Closes d cs (position + Text.byteLength lexeme.raw) tokens inner interior)
    (hk : lexeme.kind ∈ TokenKind.parts) :
    Closes d (lexeme.raw ++ cs) position (lexeme.token position :: tokens)
      (lexeme.token position :: inner) (lexeme.raw ++ interior) where
  written := by
    obtain ⟨after, rfl⟩ := h.written
    exact ⟨after, (List.append_assoc ..).symm⟩
  read := by
    obtain ⟨closer, rest, rfl, hk, hp⟩ := h.read
    exact ⟨closer, rest, rfl, hk, by rw [hp, Text.byteLength_append, Nat.add_assoc]⟩
  parts := List.forall_mem_cons.mpr ⟨hk, h.parts⟩

/-- Inside a tag its end is found, and it is the first closing delimiter outside strings exactly if
no other token of the tag holds one. -/
theorem Rounds.exists_closes (hc : Dialect.isUnusable d.closing = false) {opened : Nat}
    (h : Rounds d [] none (some opened) position cs tokens) :
    ∃ inner interior, Closes d cs position tokens inner interior ∧
      (Lexeme.Unclosed d interior ↔
        ∀ token ∈ inner, token.kind ≠ .string → d.closing ∉ token.text.toList) := by
  generalize hi : some opened = inside at h
  induction h with
  | done => cases hi
  | @round _ _ position _ front _ after hr _ ih =>
    cases hr with
    | text => cases hi
    | tagStart => cases hi
    | @blank _ c _ hb =>
      obtain ⟨inner, interior, hcloses, hu⟩ := ih hi
      have hq : c ≠ '"' ∧ c ≠ '\'' := by constructor <;> rintro rfl <;> exact absurd hb (by decide)
      have hne : c ≠ d.closing := by
        rintro rfl
        simp [Dialect.isUnusable, hb] at hc
      refine ⟨inner, c :: interior, hcloses.blank, ?_⟩
      rw [Lexeme.unclosed_cons_iff hq, ← hu]
      exact and_iff_right hne
    | tagEnd =>
      refine ⟨[], [], ⟨⟨front, rfl⟩, ⟨_, after, rfl, rfl, rfl⟩, List.forall_mem_nil _⟩, ?_⟩
      exact iff_of_true .nil (List.forall_mem_nil _)
    | part _ _ _ hl hraw =>
      obtain ⟨inner, interior, hcloses, hu⟩ := ih hi
      rw [← hraw] at hcloses ⊢
      refine ⟨_, _, hcloses.lexeme (Lexeme.inTag?_spec hl).2.2.mem_parts, ?_⟩
      rw [Lexeme.unclosed_raw_append_iff hl, hu, List.forall_mem_cons, Lexeme.token,
        String.toList_ofList]

/-- After a token that opens a tag scanning goes on inside the tag, behind what is before it and the
opening delimiter. -/
structure Opens (d : Delimiters) (cs : List Char) (position : Nat) (opener : Token)
    (tail : List Token) (before behind : List Char) : Prop where
  /-- What is written. -/
  written : cs = before ++ d.opening :: behind
  /-- Where the tag opens. -/
  position_eq : opener.position = position + Text.byteLength before
  /-- The tokens behind the opening delimiter. -/
  read : scan d (some opener.position) behind (opener.position + d.opening.utf8Size) = .ok tail

/-- A tag that opens in what is behind other characters. -/
theorem Opens.behind {opener : Token} {tail : List Token} {before behind : List Char}
    (raw : List Char)
    (h : Opens d cs (position + Text.byteLength raw) opener tail before behind) :
    Opens d (raw ++ cs) position opener tail (raw ++ before) behind where
  written := by rw [h.written, List.append_assoc]
  position_eq := by rw [h.position_eq, Text.byteLength_append, Nat.add_assoc]
  read := h.read

/-- Only the opening delimiter opens a tag. -/
theorem Round.eq_tagStart {raw rest : List Char} {lexeme : Lexeme} {next : Option Nat}
    (h : Round d position inside raw rest (some lexeme) next) (hk : lexeme.kind = .tagStart) :
    raw = [d.opening] ∧ next = some position := by
  cases h with
  | tagStart => exact ⟨rfl, rfl⟩
  | part _ _ _ hl =>
    have hparts := (Lexeme.inTag?_spec hl).2.2.mem_parts
    rw [hk] at hparts
    exact absurd hparts (by decide)
  | _ => cases hk

/-- A tag opens where the token says that opens it. -/
theorem Rounds.exists_opens {head tail : List Token} {opener : Token}
    (hk : opener.kind = .tagStart)
    (h : Rounds d [] none inside position cs (head ++ opener :: tail)) :
    ∃ before behind, Opens d cs position opener tail before behind := by
  generalize ht : head ++ opener :: tail = tokens at h
  induction h generalizing head with
  | done => exact absurd ht (List.append_ne_nil_of_right_ne_nil head (List.cons_ne_nil opener tail))
  | @round _ _ position raw front read after hr h ih =>
    cases read with
    | none =>
      obtain ⟨before, behind, ho⟩ := ih ht
      exact ⟨_, _, ho.behind raw⟩
    | some lexeme =>
      rcases List.append_eq_cons_iff.mp ht with ⟨-, he⟩ | ⟨head', -, he⟩
      · obtain ⟨rfl, rfl⟩ := List.cons.inj he
        obtain ⟨rfl, rfl⟩ := hr.eq_tagStart hk
        exact ⟨[], front, rfl, rfl, scan_eq_ok_iff.mpr h⟩
      · obtain ⟨before, behind, ho⟩ := ih he.symm
        exact ⟨_, _, ho.behind raw⟩

/-- A delimiter is in a word, a numeral or a run of symbols only if the kind of token may hold it. -/
theorem Rounds.mayHold {x : Char} (hx : Dialect.isUnusable x = false)
    (hd : x = d.opening ∨ x = d.closing) (h : Rounds d [] none inside position cs tokens) :
    ∀ token ∈ tokens, token.kind ∈ [.word, .number, .symbol] → x ∈ token.text.toList →
      token.kind.MayHold x := by
  induction h with
  | done => exact List.forall_mem_nil _
  | round hr _ ih =>
    refine List.forall_mem_append.mpr ⟨?_, ih⟩
    cases hr with
    | text => simp [Lexeme.token]
    | tagStart => simp [Lexeme.token, Lexeme.verbatim]
    | blank => exact List.forall_mem_nil _
    | tagEnd => simp [Lexeme.token, Lexeme.verbatim]
    | @part _ c _ _ lexeme _ hc ho hl =>
      rw [ofRead_some, List.forall_mem_singleton]
      intro hk hm
      have hne : c ≠ x := by rcases hd with rfl | rfl <;> assumption
      have hstring : lexeme.kind ≠ .string := by
        rintro he
        simp [Lexeme.token, he] at hk
      rw [Lexeme.token, String.toList_ofList] at hm
      exact Lexeme.mayHold_of_inTag? hx hd hne hl hstring hm

/-- Delimiters and the tokens of a text. In every dialect no run of symbols holds a delimiter; a word
can hold one only if it is an underscore, and a numeral only if it is a point or a sign. Behind every
token that opens a tag the text of the tag and its tokens follow, up to the closing delimiter. That is
the first closing delimiter outside quoted strings exactly if no token of the tag but strings holds
one; so it always is unless the closing delimiter is one of those four characters. -/
theorem delimiters_of_tokenize {draft : Dialect.Draft} {d : Dialect}
    (hd : Dialect.ofDraft draft = .ok d) {source : String} {tokens : List Token}
    (ht : tokenize d.delimiters source = .ok tokens) :
    (∀ token ∈ tokens, token.kind ∈ [.word, .number, .symbol] → ∀ c ∈ token.text.toList,
      c = d.delimiters.opening ∨ c = d.delimiters.closing → token.kind.MayHold c) ∧
      ∀ head opener tail, tokens = head ++ opener :: tail → opener.kind = .tagStart →
        ∃ before behind inner interior,
          source.toList = before ++ d.delimiters.opening :: behind ∧
          opener.position = Text.byteLength before ∧
          Closes d.delimiters behind (opener.position + d.delimiters.opening.utf8Size) tail inner
            interior ∧
          (Lexeme.Unclosed d.delimiters interior ↔
            ∀ token ∈ inner, token.kind ≠ .string →
              d.delimiters.closing ∉ token.text.toList) ∧
          (d.delimiters.closing ∉ ['_', '.', '+', '-'] →
            Lexeme.Unclosed d.delimiters interior) := by
  obtain ⟨-, hopening, hclosing⟩ := Dialect.delimiters_of_ofDraft hd
  have hheld : ∀ token ∈ tokens, token.kind ∈ [.word, .number, .symbol] →
      ∀ c ∈ token.text.toList, c = d.delimiters.opening ∨ c = d.delimiters.closing →
        token.kind.MayHold c := by
    intro token hm hk c hc hdelimiter
    have hx : Dialect.isUnusable c = false := by rcases hdelimiter with rfl | rfl <;> assumption
    exact (scan_eq_ok_iff.mp ht).mayHold hx hdelimiter token hm hk hc
  refine ⟨hheld, fun head opener tail hsplit hk => ?_⟩
  obtain ⟨before, behind, ho⟩ := (scan_eq_ok_iff.mp (hsplit ▸ ht)).exists_opens hk
  obtain ⟨inner, interior, hcloses, hu⟩ := (scan_eq_ok_iff.mp ho.read).exists_closes hclosing
  refine ⟨before, behind, inner, interior, ho.written, ho.position_eq.trans (Nat.zero_add _),
    hcloses, hu, fun hnone => hu.mpr fun token hm hstring hc => ?_⟩
  obtain ⟨closer, rest, rfl, -, -⟩ := hcloses.read
  have hkind : token.kind ∈ [.word, .number, .symbol] := by
    have hpart := hcloses.parts token hm
    revert hpart hstring
    generalize token.kind = kind
    cases kind <;> decide
  have hmay := hheld token (by simp [hsplit, hm]) hkind d.delimiters.closing hc (.inr rfl)
  generalize token.kind = kind at hmay
  generalize d.delimiters.closing = c at hmay hnone
  cases hmay with
  | underscore => exact hnone (by decide)
  | point => exact hnone (by decide)
  | sign hc => exact hnone (by rcases hc with rfl | rfl <;> decide)

set_option maxRecDepth 1000 in
/-- There is a dialect with the standard operators and directives in which a point closes tags. -/
theorem exists_dialect_closing_point :
    ∃ d, Dialect.ofSettings "points"
        [.delimiters ⟨'<', '.'⟩, .standardOperators, .standardDirectives] = .ok d ∧
      d.delimiters = ⟨'<', '.'⟩ :=
  ⟨_, rfl, rfl⟩

/-- The law where a point closes tags: the tag goes on over the point in its string, and ends at the
next one, although a digit follows it. -/
theorem delimiters_of_tokenize_point :
    let source := "é<x-'a.b'.5"
    let tail : List Token := [⟨.word, "x", 3⟩, ⟨.symbol, "-", 4⟩, ⟨.string, "a.b", 5⟩,
      ⟨.tagEnd, ".", 10⟩, ⟨.text, "5", 11⟩]
    ∃ d, Dialect.ofSettings "points"
        [.delimiters ⟨'<', '.'⟩, .standardOperators, .standardDirectives] = .ok d ∧
      tokenize d.delimiters source = .ok (⟨.text, "é", 0⟩ :: ⟨.tagStart, "<", 2⟩ :: tail) ∧
      ∃ before interior after, source.toList = before ++ '<' :: (interior ++ '.' :: after) ∧
        Text.byteLength before = 2 ∧ Text.byteLength interior = 7 ∧
        Lexeme.Unclosed ⟨'<', '.'⟩ interior := by
  intro source tail
  obtain ⟨d, hd, hdelimiters⟩ := exists_dialect_closing_point
  have ht : tokenize d.delimiters source =
      .ok (⟨.text, "é", 0⟩ :: ⟨.tagStart, "<", 2⟩ :: tail) := by
    rw [hdelimiters]
    cbv
  obtain ⟨-, htags⟩ := delimiters_of_tokenize hd ht
  obtain ⟨before, behind, inner, interior, hs, hp, hcloses, hu, -⟩ :=
    htags [⟨.text, "é", 0⟩] _ tail rfl rfl
  rw [hdelimiters] at hs hcloses hu
  obtain ⟨after, rfl⟩ := hcloses.written
  obtain ⟨closer, rest, hread, hk, hposition⟩ := hcloses.read
  -- the tokens of the tag are those before the one that closes it
  have hparts : ∀ token ∈ inner, decide (token.kind ∈ TokenKind.parts) = true :=
    fun token hm => decide_eq_true (hcloses.parts token hm)
  have hinner : tail.takeWhile (fun token => token.kind ∈ TokenKind.parts) = inner := by
    rw [hread, List.takeWhile_append_of_pos hparts, List.takeWhile_cons, hk]
    exact List.append_nil inner
  have htokens : inner = [⟨.word, "x", 3⟩, ⟨.symbol, "-", 4⟩, ⟨.string, "a.b", 5⟩] :=
    hinner.symm.trans rfl
  refine ⟨d, hd, ht, before, interior, after, hs, hp.symm, ?_, hu.mpr ?_⟩
  · rw [htokens] at hread
    have hclose : (⟨.tagEnd, ".", 10⟩ : Token) :: [⟨.text, "5", 11⟩] = closer :: rest :=
      congrArg (List.drop 3) hread
    obtain ⟨rfl, -⟩ := List.cons.inj hclose
    have hten : 10 = 2 + Char.utf8Size '<' + Text.byteLength interior := hposition
    have hone : Char.utf8Size '<' = 1 := by decide
    omega
  · rw [htokens]
    decide

/-- A point that closes tags can be swallowed by a numeral: the second one closes this tag. -/
theorem exists_number_with_closing :
    ∃ d tokens, Dialect.ofSettings "points"
        [.delimiters ⟨'<', '.'⟩, .standardOperators, .standardDirectives] = .ok d ∧
      tokenize d.delimiters "<1.5." = .ok tokens ∧
      ∃ token ∈ tokens, token.kind = .number ∧ d.delimiters.closing ∈ token.text.toList := by
  obtain ⟨d, hd, hdelimiters⟩ := exists_dialect_closing_point
  have ht : tokenize d.delimiters "<1.5." =
      .ok [⟨.tagStart, "<", 0⟩, ⟨.number, "1.5", 1⟩, ⟨.tagEnd, ".", 4⟩] := by
    rw [hdelimiters]
    cbv
  refine ⟨d, _, hd, ht, ⟨.number, "1.5", 1⟩, by simp, rfl, ?_⟩
  rw [hdelimiters]
  decide

end Token

end TagTemplate
