import TagTemplate.Proofs.Tag.Displaced
import TagTemplate.Proofs.Tag.Shapes
import TagTemplate.Proofs.Tag.Splitting

/-!
# Where tags come from

Every unit that is read from tokens is a text or a tag, and what is read for a tag, be it an error,
depends on the tokens between its delimiters only. The pieces into which these are cut begin where a
token does, or where a run of symbols goes on with its next symbol; and an expression that does not
read is complained about at one of the pieces.
-/

namespace TagTemplate

/-- The characters of a text have its bytes. -/
theorem Text.byteLength_toList (s : String) : byteLength s.toList = s.utf8ByteSize := by
  rw [← utf8ByteSize_ofList, String.ofList_toList]

namespace Token

/-- A piece of a tag begins at a position of a token: where the token begins, or where one of the
symbols begins that the token is split into. -/
inductive Begins (symbols : List String) (token : Token) : Nat → Prop
  /-- The token begins. -/
  | token : Begins symbols token token.position
  /-- A symbol begins, behind others of the same run. -/
  | symbol {earlier later : List String} {piece : String} (hk : token.kind = .symbol)
    (hs : TagPiece.splitRun symbols token.text.toList = some (earlier ++ piece :: later)) :
    Begins symbols token (token.position + Text.byteLength (earlier.flatMap String.toList))

/-- Among tokens are those of a tag: one that opens it, the parts of the tag and one that closes it. -/
structure IsTag (tokens : List Token) (opener : Token) (inner : List Token) (closer : Token) :
    Prop where
  /-- The tag is read. -/
  read : ∃ front back, tokens = front ++ opener :: inner ++ closer :: back
  /-- The first token opens it. -/
  opens : opener.kind = .tagStart
  /-- The last token closes it. -/
  closes : closer.kind = .tagEnd
  /-- The others are its parts. -/
  parts : ∀ token ∈ inner, token.kind ∈ TokenKind.parts

/-- A tag is there with more tokens in front. -/
theorem IsTag.behind {tokens inner : List Token} {opener closer : Token}
    (h : IsTag tokens opener inner closer) (earlier : List Token) :
    IsTag (earlier ++ tokens) opener inner closer where
  read := by
    obtain ⟨front, back, rfl⟩ := h.read
    exact ⟨earlier ++ front, back, by simp only [List.append_assoc]⟩
  opens := h.opens
  closes := h.closes
  parts := h.parts

end Token

namespace TagPiece

variable {d : Dialect} {symbols : List String} {piece : TagPiece} {token : Token}

/-- Symbols stand one behind the other. -/
theorem exists_of_mem_place {position : Nat} {pieces : List String}
    (h : piece ∈ place position pieces) :
    ∃ earlier symbol later, pieces = earlier ++ symbol :: later ∧
      piece.position = position + Text.byteLength (earlier.flatMap String.toList) := by
  induction pieces generalizing position with
  | nil => exact absurd h List.not_mem_nil
  | cons symbol pieces ih =>
    rcases List.mem_cons.mp h with rfl | hrest
    · exact ⟨[], symbol, pieces, rfl, rfl⟩
    · obtain ⟨earlier, next, later, rfl, hp⟩ := ih hrest
      refine ⟨symbol :: earlier, next, later, rfl, ?_⟩
      rw [hp, List.flatMap_cons, Text.byteLength_append, Text.byteLength_toList, Nat.add_assoc]

/-- The pieces of a token begin where pieces of it may. -/
theorem begins_of_mem_ofToken (h : piece ∈ ofToken d symbols token) :
    token.Begins symbols piece.position := by
  unfold ofToken at h
  split at h
  · split at h
    · split at h <;> rw [List.mem_singleton.mp h] <;> exact .token
    · rw [List.mem_singleton.mp h]
      exact .token
  · rw [List.mem_singleton.mp h]
    exact .token
  · rw [List.mem_singleton.mp h]
    exact .token
  · next hk =>
    obtain ⟨earlier, symbol, later, hpieces, hp⟩ := exists_of_mem_place h
    rw [hp]
    cases hsplit : splitRun symbols token.text.toList with
    | none => simp [hsplit] at hpieces
    | some pieces =>
      rw [hsplit, Option.getD_some] at hpieces
      exact .symbol hk (hpieces ▸ hsplit)
  all_goals exact absurd h List.not_mem_nil

end TagPiece

/-- What a cut leaves over are the last pieces. -/
theorem TagShape.Cut.isSuffix {d : Dialect} {slots slots' : List TagSlot}
    {pieces pieces' : List TagPiece} {lengths : List Nat} {parts : List TagPart}
    (h : Cut d slots pieces lengths parts slots' pieces') : pieces' <:+ pieces := by
  induction h with
  | stop => exact List.suffix_rfl
  | @take _ _ _ run rest _ _ _ _ _ _ ih => exact ih.trans (List.suffix_append run rest)

namespace LexedTag

variable {d : Dialect} {position : Nat} {pieces : List TagPiece}

/-- A tag that is read is where it opens. -/
theorem position_of_ofPieces {tag : LexedTag} (h : ofPieces d position pieces = .ok tag) :
    tag.position = position := by
  obtain ⟨shape, parts, htag, -⟩ | ⟨-, ⟨place, error, herror, -⟩ | ⟨herror, -⟩⟩ :=
    ofPieces_eq d position pieces
  · rw [htag] at h
    cases h
    rfl
  · rw [herror] at h
    cases h
  · rw [herror] at h
    cases h

/-- A tag that is not read has an expression that does not read and begins with one of the pieces, or
it is unknown. -/
theorem ofPieces_eq_error {error : TemplateError} (h : ofPieces d position pieces = .error error) :
    (∃ piece ∈ pieces, ∃ reason, error = .expression piece.position reason) ∨
      ∃ markup, error = .parse (.unknownTag markup position) := by
  obtain ⟨shape, parts, htag, -⟩ | ⟨-, ⟨place, reason, herror, hfirst⟩ | ⟨herror, -⟩⟩ :=
    ofPieces_eq d position pieces
  · rw [htag] at h
    cases h
  · obtain ⟨_, ⟨shape, -, _, _, left, hcut, hmisread⟩, -⟩ := hfirst
    obtain ⟨piece, hhead, hplace⟩ := Option.map_eq_some_iff.mp hmisread.1
    have hpiece : piece ∈ left :=
      (TagShape.longestRun_isPrefix d left).subset (List.mem_of_head? hhead)
    rw [herror] at h
    cases h
    exact .inl ⟨piece, hcut.isSuffix.subset hpiece, reason, by rw [hplace]⟩
  · rw [herror] at h
    cases h
    exact .inr ⟨_, rfl⟩

end LexedTag

namespace Lex

variable {D : Dialect} {symbols : List String} {tokens : List Token}

/-- The pieces of a tag are those of its tokens, up to the one that closes it. -/
theorem tokens_of_interior {opened : Nat} {pieces : List TagPiece} {after : List Token}
    (h : interior D symbols opened tokens = (.ok pieces, after)) :
    ∃ inner closer, tokens = inner ++ closer :: after ∧ closer.kind = .tagEnd ∧
      (∀ token ∈ inner, token.kind ∈ TokenKind.parts) ∧
      pieces = inner.flatMap (TagPiece.ofToken D symbols) := by
  induction tokens generalizing pieces with
  | nil => cases h
  | cons token tokens ih =>
    rcases interior_cons_eq_ok_iff.mp h with ⟨hk, rfl, rfl⟩ | ⟨hk, pieces', hi, rfl⟩
    · exact ⟨[], token, rfl, hk, List.forall_mem_nil _, rfl⟩
    · obtain ⟨inner, closer, rfl, hclose, hparts, rfl⟩ := ih hi
      exact ⟨token :: inner, closer, rfl, hclose, List.forall_mem_cons.mpr ⟨hk, hparts⟩, rfl⟩

/-- A unit, or its error, is read from tokens: it is a text, or what the pieces of one of the tags
form. -/
inductive ReadFrom (D : Dialect) (symbols : List String) (tokens : List Token) :
    Except TemplateError Lex → Prop
  /-- A text is read. -/
  | text (s : String) (position : Nat) : ReadFrom D symbols tokens (.ok (.text s position))
  /-- A tag is read, or not. -/
  | tag {opener closer : Token} {inner : List Token} (h : Token.IsTag tokens opener inner closer) :
    ReadFrom D symbols tokens ((LexedTag.ofPieces D opener.position
      (inner.flatMap (TagPiece.ofToken D symbols))).map .tag)

/-- What is read from the last tokens is read from all. -/
theorem ReadFrom.behind {result : Except TemplateError Lex} (h : ReadFrom D symbols tokens result)
    (earlier : List Token) : ReadFrom D symbols (earlier ++ tokens) result := by
  cases h with
  | text s position => exact .text s position
  | tag h => exact .tag (h.behind earlier)

/-- All units of tokens that are laid out are read from them. -/
theorem readFrom_of_units {d : Delimiters} {position : Nat} {cs : List Char}
    (h : Layout d .outside position cs tokens) :
    ∀ result ∈ units D symbols tokens, ReadFrom D symbols tokens result := by
  fun_induction units D symbols tokens generalizing position cs with
  | case1 => exact List.forall_mem_nil _
  | case2 token rest step =>
    rename_i ih
    rcases h.outside_cons with ⟨hk, position', cs', hrest⟩ | ⟨hk, position', cs', hrest⟩
    · have hstep : step = (.ok (.text token.text token.position), rest) := by
        change first D symbols token rest = _
        rw [first, hk]
      rw [hstep] at ih ⊢
      refine List.forall_mem_cons.mpr ⟨.text _ _, fun result hm => ?_⟩
      exact (ih hrest result hm).behind [token]
    · obtain ⟨pieces, left, position', cs', hi, hleft⟩ := hrest.interior_eq_ok D symbols _ rfl
      have hstep : step = _ := first_eq_of_interior hk hi
      rw [hstep] at ih ⊢
      obtain ⟨inner, closer, rfl, hclose, hparts, rfl⟩ := tokens_of_interior hi
      refine List.forall_mem_cons.mpr ⟨?_, fun result hm => ?_⟩
      · exact .tag ⟨⟨[], left, rfl⟩, hk, hclose, hparts⟩
      · have hread := (ih hleft result hm).behind (token :: inner ++ [closer])
        rwa [List.append_assoc] at hread

end Lex

end TagTemplate
