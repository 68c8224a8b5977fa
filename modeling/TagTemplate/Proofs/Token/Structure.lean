import Mathlib
import TagTemplate.Lex
import TagTemplate.Proofs.Token.Layout

/-!
# Structure of tokens

What follows from the layout of tokens: their kinds form texts and tags, their positions increase
and lie between characters, and a tag that was opened is closed before anything outside tags
follows. So a reader of the tokens never meets a token where it does not belong.
-/

namespace TagTemplate

namespace TokenKind

/-- A segment of a template: a text, or a tag with its parts between its delimiters. -/
def IsSegment (kinds : List TokenKind) : Prop :=
  kinds = [.text] ∨ ∃ inner, kinds = .tagStart :: inner ++ [.tagEnd] ∧ ∀ kind ∈ inner, kind ∈ parts

/-- Kinds of tokens that form segments, one after another. -/
def Structured (kinds : List TokenKind) : Prop :=
  ∃ segments : List (List TokenKind), kinds = segments.flatten ∧
    ∀ segment ∈ segments, IsSegment segment

/-- A segment before others. -/
theorem Structured.cons {segment kinds : List TokenKind} (h : Structured kinds)
    (hs : IsSegment segment) : Structured (segment ++ kinds) := by
  obtain ⟨segments, rfl, hsegments⟩ := h
  refine ⟨segment :: segments, rfl, ?_⟩
  intro other ho
  rcases List.mem_cons.mp ho with rfl | ho
  · exact hs
  · exact hsegments other ho

/-- The kinds of tokens that may stand from a place on: segments, after the rest of a tag if that
place is inside it. -/
def StandsAt : Place → List TokenKind → Prop
  | .outside, kinds => Structured kinds
  | .inside, kinds => ∃ inner rest, kinds = inner ++ .tagEnd :: rest ∧
      (∀ kind ∈ inner, kind ∈ parts) ∧ Structured rest

/-- A part of a tag before what may stand inside it. -/
theorem StandsAt.cons_part {kind : TokenKind} {kinds : List TokenKind}
    (h : StandsAt .inside kinds) (hk : kind ∈ parts) : StandsAt .inside (kind :: kinds) := by
  obtain ⟨inner, rest, rfl, hinner, hrest⟩ := h
  refine ⟨kind :: inner, rest, rfl, ?_, hrest⟩
  intro other ho
  rcases List.mem_cons.mp ho with rfl | ho
  · exact hk
  · exact hinner other ho

/-- A kind of token before those that may follow it may stand in its place. -/
theorem StandsAt.cons {kind : TokenKind} {place after : Place} {kinds : List TokenKind}
    (hl : kind.Leads place after) (h : StandsAt after kinds) : StandsAt place (kind :: kinds) := by
  cases hl with
  | text => exact Structured.cons h (.inl rfl)
  | tagStart =>
    obtain ⟨inner, rest, rfl, hinner, hrest⟩ := h
    have hs : IsSegment (.tagStart :: inner ++ [.tagEnd]) := .inr ⟨inner, rfl, hinner⟩
    have ht := hrest.cons hs
    rwa [List.append_assoc, List.cons_append] at ht
  | tagEnd => exact ⟨[], kinds, rfl, fun _ hm => absurd hm List.not_mem_nil, h⟩
  | word => exact h.cons_part (by decide)
  | number => exact h.cons_part (by decide)
  | string => exact h.cons_part (by decide)
  | symbol => exact h.cons_part (by decide)

end TokenKind

/-- The bytes of a text are those of its characters. -/
theorem Text.utf8ByteSize_ofList (cs : List Char) :
    (String.ofList cs).utf8ByteSize = byteLength cs := by
  induction cs with
  | nil => rfl
  | cons c cs ih =>
    rw [String.ofList_cons, String.utf8ByteSize_append, String.utf8ByteSize_singleton, ih,
      byteLength_cons]

/-- A position after some of the characters of a text lies between characters. -/
theorem Text.isValid_byteLength {s : String} {before after : List Char}
    (h : s.toList = before ++ after) : String.Pos.Raw.IsValid s ⟨byteLength before⟩ := by
  have hs : s = String.ofList before ++ String.ofList after := by
    rw [← String.ofList_append, ← h, String.ofList_toList]
  have hv := (String.Pos.Raw.isValid_rawEndPos (s := String.ofList before)).append_right
    (String.ofList after)
  rwa [← hs, String.rawEndPos, utf8ByteSize_ofList] at hv

namespace Layout

variable {d : Delimiters} {place : Place} {position : Nat} {cs : List Char} {tokens : List Token}

/-- The kinds of tokens that are laid out may stand in their place. -/
theorem standsAt (h : Layout d place position cs tokens) :
    TokenKind.StandsAt place (tokens.map Token.kind) := by
  induction h with
  | finished => exact ⟨[], rfl, fun _ hm => absurd hm List.not_mem_nil⟩
  | token hl _ _ _ _ _ ih => exact .cons hl ih

/-- Text that is laid out is not empty. -/
theorem text_ne_empty (h : Layout d place position cs tokens) :
    ∀ token ∈ tokens, token.kind = .text → token.text ≠ "" := by
  induction h with
  | finished => exact fun _ hm => absurd hm List.not_mem_nil
  | @token _ _ _ _ _ lexeme tokens _ hw _ _ _ _ ih =>
    intro token hm hk
    rcases List.mem_cons.mp hm with rfl | hm
    · cases hw with
      | text hn => exact fun he => hn (String.ofList_eq_empty_iff.mp he)
      | _ => cases hk
    · exact ih token hm hk

/-- No two texts that are laid out follow each other. -/
theorem isChain (h : Layout d place position cs tokens) :
    tokens.IsChain fun a b => ¬(a.kind = .text ∧ b.kind = .text) := by
  induction h with
  | finished => exact .nil
  | @token _ _ _ _ _ lexeme tokens _ _ _ _ ht _ ih =>
    refine List.isChain_cons.mpr ⟨?_, ih⟩
    rintro next hn ⟨hk, hnext⟩
    exact ht hk (by rw [Option.mem_def.mp hn]; exact congrArg some hnext)

/-- Every token is laid out after some of the characters. -/
theorem exists_before (h : Layout d place position cs tokens) :
    ∀ token ∈ tokens, ∃ before after, cs = before ++ after ∧
      token.position = position + Text.byteLength before := by
  induction h with
  | finished => exact fun _ hm => absurd hm List.not_mem_nil
  | @token _ _ position blanks rest lexeme tokens _ _ _ _ _ _ ih =>
    intro token hm
    rcases List.mem_cons.mp hm with rfl | hm
    · exact ⟨blanks, lexeme.raw ++ rest, List.append_assoc .., rfl⟩
    · obtain ⟨before, after, rfl, hp⟩ := ih token hm
      refine ⟨blanks ++ lexeme.raw ++ before, after, (List.append_assoc ..).symm, ?_⟩
      rw [hp, Text.byteLength_append, Text.byteLength_append]
      omega

/-- A token is written where it is laid out, and the tokens after it are laid out behind it. -/
theorem exists_written {front back : List Token} {token : Token}
    (h : Layout d place position cs (front ++ token :: back)) :
    ∃ (before : List Char) (lexeme : Lexeme) (rest : List Char) (after : Place),
      cs = before ++ lexeme.raw ++ rest ∧ lexeme.Written d ∧
      token = lexeme.token (position + Text.byteLength before) ∧
      Layout d after (position + Text.byteLength before + Text.byteLength lexeme.raw) rest back := by
  generalize ht : front ++ token :: back = tokens at h
  induction h generalizing front with
  | finished => exact absurd ht (List.append_ne_nil_of_right_ne_nil front (List.cons_ne_nil _ _))
  | @token _ after position blanks rest lexeme tokens _ hw _ _ _ hrest ih =>
    rcases List.append_eq_cons_iff.mp ht with ⟨-, he⟩ | ⟨front', -, he⟩
    · obtain ⟨rfl, rfl⟩ := List.cons.inj he
      exact ⟨blanks, lexeme, rest, after, rfl, hw, rfl, hrest⟩
    · obtain ⟨before, written, rest', after', rfl, hw', htoken, hback⟩ := ih he.symm
      refine ⟨blanks ++ lexeme.raw ++ before, written, rest', after', ?_, hw', ?_, ?_⟩
      · simp only [List.append_assoc]
      · rw [htoken, Text.byteLength_append, Text.byteLength_append]
        simp only [Nat.add_assoc]
      · rw [Text.byteLength_append, Text.byteLength_append]
        simpa only [Nat.add_assoc] using hback

/-- The positions of tokens that are laid out increase. -/
theorem pairwise (h : Layout d place position cs tokens) :
    tokens.Pairwise fun a b => a.position < b.position := by
  induction h with
  | finished => exact .nil
  | @token _ _ position blanks rest lexeme tokens _ hw _ _ _ h ih =>
    refine .cons ?_ ih
    intro next hm
    obtain ⟨before, _, -, hp⟩ := h.exists_before next hm
    have hpos := Text.byteLength_pos hw.raw_ne_nil
    rw [hp, Lexeme.token]
    dsimp only
    omega

/-- Outside tags a text is laid out, or the opening of a tag. -/
theorem outside_cons {token : Token} (h : Layout d .outside position cs (token :: tokens)) :
    token.kind = .text ∧ (∃ position' cs', Layout d .outside position' cs' tokens) ∨
      token.kind = .tagStart ∧ ∃ position' cs', Layout d .inside position' cs' tokens := by
  cases h with
  | @token _ after _ _ _ lexeme _ hl _ _ _ _ h =>
    generalize hk : lexeme.kind = kind at hl
    cases hl with
    | text => exact .inl ⟨hk, _, _, h⟩
    | tagStart => exact .inr ⟨hk, _, _, h⟩

/-- The tokens of a tag are read up to the one that closes it, and those after it are laid out
outside tags. -/
theorem interior_eq_ok (D : Dialect) (symbols : List String) (opened : Nat)
    (h : Layout d place position cs tokens) (hp : place = .inside) :
    ∃ pieces rest position' cs', Lex.interior D symbols opened tokens = (.ok pieces, rest) ∧
      Layout d .outside position' cs' rest := by
  induction h with
  | finished => cases hp
  | @token place after _ _ _ lexeme tokens hl _ _ _ _ h ih =>
    subst hp
    generalize hk : lexeme.kind = kind at hl
    rw [Lex.interior, Lexeme.token, hk]
    cases hl with
    | tagEnd => exact ⟨[], tokens, _, _, rfl, h⟩
    | _ =>
      obtain ⟨pieces, rest, position', cs', hi, hr⟩ := ih rfl
      rw [hi]
      exact ⟨_, rest, position', cs', rfl, hr⟩

end Layout

/-- A result that is no complaint about a token in the wrong place. -/
def Lex.Placed (result : Except TemplateError Lex) : Prop :=
  ∀ position reason, result ≠ .error (.parse (.malformedTag position reason)) ∧
    result ≠ .error (.parse (.unclosedTag position))

/-- The pieces of a tag are not complained about because of their places. -/
theorem Lex.placed_ofPieces (D : Dialect) (position : Nat) (pieces : List TagPiece) :
    Placed ((LexedTag.ofPieces D position pieces).map .tag) := by
  intro place reason
  unfold LexedTag.ofPieces
  split <;> exact ⟨nofun, nofun⟩

namespace Layout

variable {d : Delimiters} {position : Nat} {cs : List Char} {token : Token} {tokens : List Token}

/-- Outside tags every token is in its place, and those after the unit that begins with it are
laid out outside tags again. -/
theorem placed_first (D : Dialect) (symbols : List String)
    (h : Layout d .outside position cs (token :: tokens)) :
    Lex.Placed (Lex.first D symbols token tokens).1 ∧
      ∃ position' cs', Layout d .outside position' cs' (Lex.first D symbols token tokens).2 := by
  cases h with
  | @token _ after _ _ _ lexeme _ hl _ _ _ _ h =>
    generalize hk : lexeme.kind = kind at hl
    rw [Lex.first, Lexeme.token, hk]
    cases hl with
    | text => exact ⟨fun _ _ => ⟨nofun, nofun⟩, _, _, h⟩
    | tagStart =>
      obtain ⟨pieces, rest, position', cs', hi, hr⟩ := h.interior_eq_ok D symbols _ rfl
      dsimp only
      rw [hi]
      exact ⟨Lex.placed_ofPieces D _ pieces, position', cs', hr⟩

/-- Every token is in its place. -/
theorem placed_units (D : Dialect) (symbols : List String)
    (h : Layout d .outside position cs tokens) :
    ∀ result ∈ Lex.units D symbols tokens, Lex.Placed result := by
  fun_induction Lex.units D symbols tokens generalizing position cs with
  | case1 => exact fun _ hm => absurd hm List.not_mem_nil
  | case2 token rest step =>
    rename_i ih
    obtain ⟨hfirst, position', cs', hrest⟩ := h.placed_first D symbols
    intro result hm
    rcases List.mem_cons.mp hm with rfl | hm
    · exact hfirst
    · exact ih hrest result hm

end Layout

namespace Token

/-- The tokens of a template lose nothing of it, whatever the delimiters. Their kinds form texts
and tags, no text is empty and none follows another; their positions increase and lie between
characters; each is written at its position as its kind requires, and between them are only
blanks inside tags; and a reader of the tokens in any dialect finds each of them in its place. -/
theorem layout_of_tokenize {d : Delimiters} {source : String} {tokens : List Token}
    (h : tokenize d source = .ok tokens) :
    TokenKind.Structured (tokens.map kind) ∧
      (∀ token ∈ tokens, token.kind = .text → token.text ≠ "") ∧
      (tokens.IsChain fun a b => ¬(a.kind = .text ∧ b.kind = .text)) ∧
      (tokens.Pairwise fun a b => a.position < b.position) ∧
      (∀ token ∈ tokens, String.Pos.Raw.IsValid source ⟨token.position⟩) ∧
      Layout d .outside 0 source.toList tokens ∧
      ∀ D : Dialect, ∀ result ∈ Lex.ofTokens D tokens, Lex.Placed result := by
  have hl : Layout d .outside 0 source.toList tokens := layout_of_scan h
  have hv : ∀ token ∈ tokens, String.Pos.Raw.IsValid source ⟨token.position⟩ := by
    intro token hm
    obtain ⟨before, after, hs, hp⟩ := hl.exists_before token hm
    rw [hp, Nat.zero_add]
    exact Text.isValid_byteLength hs
  exact ⟨hl.standsAt, hl.text_ne_empty, hl.isChain, hl.pairwise, hv, hl,
    fun D => hl.placed_units D D.operators.symbols⟩

/-- The law at a text with a doubled delimiter and a character of two bytes, a tag with a string
that holds its own quote, and a second text. -/
theorem layout_of_tokenize_quoted :
    let source := "a<<é <x +'q\\'t' >b"
    let tokens : List Token := [⟨.text, "a<é ", 0⟩, ⟨.tagStart, "<", 6⟩, ⟨.word, "x", 7⟩,
      ⟨.symbol, "+", 9⟩, ⟨.string, "q't", 10⟩, ⟨.tagEnd, ">", 17⟩, ⟨.text, "b", 18⟩]
    tokenize ⟨'<', '>'⟩ source = .ok tokens ∧ TokenKind.Structured (tokens.map kind) ∧
      (∀ token ∈ tokens, token.kind = .text → token.text ≠ "") ∧
      (tokens.IsChain fun a b => ¬(a.kind = .text ∧ b.kind = .text)) ∧
      (tokens.Pairwise fun a b => a.position < b.position) ∧
      (∀ token ∈ tokens, String.Pos.Raw.IsValid source ⟨token.position⟩) ∧
      Layout ⟨'<', '>'⟩ .outside 0 source.toList tokens ∧
      ∀ D : Dialect, ∀ result ∈ Lex.ofTokens D tokens, Lex.Placed result := by
  intro source tokens
  have h : tokenize ⟨'<', '>'⟩ source = .ok tokens := by cbv
  exact ⟨h, layout_of_tokenize h⟩

end Token

end TagTemplate
