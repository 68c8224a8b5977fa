import TagTemplate.Proofs.Forest.Narrowing
import TagTemplate.Proofs.Tag.Origins
import TagTemplate.Proofs.Template.Compiled
import TagTemplate.Proofs.Token.Faults

/-!
# Where faults of a text are

A text is compiled in three steps, and the position that an error reports is taken in one of them
and passed on by the others. It always lies in the text, between two characters, and the character
behind it is the one that the error is about: the delimiter that opens a tag, a quote, or the
beginning of a piece inside a tag. An error of the last step is about the first tag of an open
directive, or about the tag that was refused, and these are tags that were read before.
-/

namespace TagTemplate

/-- The position that an error reports. -/
def ParseError.position : ParseError → Nat
  | .unterminatedString position => position
  | .unclosedTag position => position
  | .malformedTag position _ => position
  | .unknownTag _ position => position
  | .unmatchedTag _ position => position
  | .unexpectedTag _ position _ => position
  | .unterminatedDirective _ position => position

/-- The position in the text that an error reports, if the text is at fault. -/
def TemplateError.position? : TemplateError → Option Nat
  | .parse error => some error.position
  | .expression position _ => some position
  | _ => none

namespace Growth

variable {d : Dialect} {g : Growth}

/-- A tag at a position is what a refusal is about. -/
inductive Refuses (position : Nat) : TemplateError → Prop
  /-- No directive begins with the tag. -/
  | unmatchedTag (tag : String) : Refuses position (.parse (.unmatchedTag tag position))
  /-- The tag does not belong into an open directive and begins none. -/
  | unexpectedTag (tag : String) (inside : List String) :
    Refuses position (.parse (.unexpectedTag tag position inside))
  /-- The directive that begins with the tag is not terminated. -/
  | unterminatedDirective (names : List String) :
    Refuses position (.parse (.unterminatedDirective names position))

/-- An open directive is where its first tag is, which was read. -/
theorem Sound.exists_tag (h : g.Sound d) {o : OpenDirective} (ho : o ∈ g.stack) :
    ∃ tag, .tag tag ∈ g.units ∧ tag.position = o.position := by
  obtain ⟨tag, hhead, hposition⟩ := Option.map_eq_some_iff.mp (h.stack o ho).first
  have hunit : .tag tag ∈ o.units := LexedTag.tag_mem_weave (List.mem_of_head? hhead)
  refine ⟨tag, ?_, hposition⟩
  exact List.mem_append_right _ (List.mem_flatMap.mpr ⟨o, List.mem_reverse.mpr ho, hunit⟩)

/-- A tag that is not taken is refused, or the directive that is open is. -/
theorem refuses_of_takeTag {tag : LexedTag} {error : TemplateError}
    (h : g.takeTag d tag = .error error) :
    Refuses tag.position error ∨ ∃ o ∈ g.stack, Refuses o.position error := by
  unfold takeTag at h
  dsimp only at h
  split at h
  · split at h <;> cases h
    exact .inl (.unmatchedTag _)
  · next o outer hg =>
    split at h
    · cases h
    · split at h
      · cases h
        exact .inr ⟨o, hg ▸ List.mem_cons_self, .unterminatedDirective _⟩
      · split at h <;> cases h
        exact .inl (.unexpectedTag _ _)

end Growth

/-- Units that form no forest hold an error, or a tag among them is refused. -/
theorem Forest.refuses_of_ofUnits {d : Dialect} {units : List (Except TemplateError Lex)}
    {error : TemplateError} (h : ofUnits d units = .error error) :
    .error error ∈ units ∨
      ∃ tag, .ok (.tag tag) ∈ units ∧ Growth.Refuses tag.position error := by
  have hopen {read : List Lex} {g : Growth} (hr : Growth.Reaches d ⟨[], []⟩ read g)
      {o : OpenDirective} (ho : o ∈ g.stack) : ∃ tag, .tag tag ∈ read ∧ tag.position = o.position := by
    have hsound := hr.sound (Growth.sound_empty d)
    rw [← hr.narrowed.1]
    exact hsound.exists_tag ho
  rcases ofUnits_eq_error_iff.mp h with htake | ⟨read, g, rfl, hr, hf⟩
  · obtain ⟨read, g, rest, rfl, hr, ⟨more, rfl⟩ | ⟨unit, more, rfl, ht⟩⟩ :=
      Growth.takeAll_eq_error_iff.mp htake
    · exact .inl (List.mem_append_right _ List.mem_cons_self)
    · right
      cases unit with
      | text s position => cases ht
      | tag tag =>
        rcases Growth.refuses_of_takeTag ht with hrefused | ⟨o, ho, hrefused⟩
        · exact ⟨tag, List.mem_append_right _ List.mem_cons_self, hrefused⟩
        · obtain ⟨first, hfirst, hposition⟩ := hopen hr ho
          refine ⟨first, List.mem_append_left _ (List.mem_map_of_mem hfirst), ?_⟩
          rwa [hposition]
  · right
    obtain ⟨o, outer, hg, rfl⟩ := Growth.finish_eq_error_iff.mp hf
    obtain ⟨first, hfirst, hposition⟩ := hopen hr (hg ▸ List.mem_cons_self)
    refine ⟨first, List.mem_map_of_mem hfirst, ?_⟩
    rw [hposition]
    exact .unterminatedDirective _

namespace Token

/-- Where a piece of a token begins, something of what is written for the token is left. -/
theorem Begins.exists_split {d : Delimiters} {symbols : List String} {lexeme : Lexeme}
    {position place : Nat} (hw : lexeme.Written d)
    (h : (lexeme.token position).Begins symbols place) :
    ∃ front c tail, lexeme.raw = front ++ c :: tail ∧ place = position + Text.byteLength front := by
  cases h with
  | token =>
    obtain ⟨c, tail, hraw⟩ := List.exists_cons_of_ne_nil hw.raw_ne_nil
    exact ⟨[], c, tail, hraw, rfl⟩
  | @symbol earlier later piece hk hs =>
    have hall := TagPiece.flatMap_of_splitRun hs
    have hpiece := TagPiece.ne_empty_of_splitRun hs piece
      (List.mem_append_right _ List.mem_cons_self)
    rw [List.flatMap_append, List.flatMap_cons] at hall
    obtain ⟨c, tail, hchars⟩ :=
      List.exists_cons_of_ne_nil (mt String.toList_eq_nil_iff.mp hpiece)
    rw [hchars] at hall
    have hraw : lexeme.raw = (lexeme.token position).text.toList := by
      rw [Lexeme.token, String.toList_ofList]
      cases hw with
      | symbol hn => rfl
      | _ => cases hk
    exact ⟨_, c, _, hraw.trans hall.symm, rfl⟩

end Token

namespace Layout

variable {d : Delimiters} {source : String} {tokens inner : List Token} {opener closer token : Token}

/-- A tag opens where its delimiter is written. -/
theorem exists_opening (h : Layout d .outside 0 source.toList tokens)
    (ht : Token.IsTag tokens opener inner closer) :
    ∃ before after, source.toList = before ++ d.opening :: after ∧
      opener.position = Text.byteLength before := by
  obtain ⟨front, back, rfl⟩ := ht.read
  rw [List.append_assoc, List.cons_append] at h
  obtain ⟨before, lexeme, rest, after, hcs, hw, htoken, -⟩ := h.exists_written
  have hopens := ht.opens
  rw [htoken] at hopens
  rw [htoken]
  cases hw with
  | tagStart =>
    refine ⟨before, rest, ?_, Nat.zero_add _⟩
    rw [hcs, List.append_assoc]
    rfl
  | _ => cases hopens

/-- A piece of a tag begins at a character, behind the opening of the tag and before its end. -/
theorem exists_piece (h : Layout d .outside 0 source.toList tokens)
    (ht : Token.IsTag tokens opener inner closer) (hm : token ∈ inner) {symbols : List String}
    {place : Nat} (hb : token.Begins symbols place) :
    ∃ before c after, source.toList = before ++ c :: after ∧ place = Text.byteLength before ∧
      opener.position < place ∧ place < closer.position := by
  obtain ⟨front, back, rfl⟩ := ht.read
  obtain ⟨earlier, later, rfl⟩ := List.append_of_mem hm
  have hall : front ++ opener :: (earlier ++ token :: later) ++ closer :: back =
      (front ++ opener :: earlier) ++ token :: (later ++ closer :: back) := by
    simp only [List.append_assoc, List.cons_append]
  rw [hall] at h
  have hopener : opener.position < token.position := by
    refine (List.pairwise_append.mp h.pairwise).2.2 opener ?_ token List.mem_cons_self
    exact List.mem_append_right _ List.mem_cons_self
  obtain ⟨before, lexeme, rest, after, hcs, hw, rfl, hback⟩ := h.exists_written
  obtain ⟨shown, c, tail, hraw, rfl⟩ := hb.exists_split hw
  obtain ⟨between, -, -, hcloser⟩ := hback.exists_before closer
    (List.mem_append_right _ List.mem_cons_self)
  have hsize : Text.byteLength lexeme.raw =
      Text.byteLength shown + (c.utf8Size + Text.byteLength tail) := by
    rw [hraw, Text.byteLength_append, Text.byteLength_cons]
  have hpositive := c.utf8Size_pos
  refine ⟨before ++ shown, c, tail ++ rest, ?_, ?_, ?_, ?_⟩
  · rw [hcs, hraw]
    simp only [List.append_assoc, List.cons_append]
  · rw [Text.byteLength_append, Nat.zero_add]
  · rw [Lexeme.token] at hopener
    dsimp only at hopener
    omega
  · omega

end Layout

namespace Template

variable {d : Dialect} {source : String} {error : TemplateError}

/-- What an error is about: the character `c` that is written behind the characters `before`. -/
inductive Points (d : Dialect) (source : String) (before : List Char) :
    Char → TemplateError → Prop
  /-- A tag that has no end opens here. -/
  | unclosedTag : Points d source before d.delimiters.opening
    (.parse (.unclosedTag (Text.byteLength before)))
  /-- This delimiter is inside a tag: what is before it ends in one. -/
  | malformedTag {opened : Nat}
    (hi : Token.tokenize d.delimiters (String.ofList before) = .error (.unclosedTag opened)) :
    Points d source before d.delimiters.opening
      (.parse (.malformedTag (Text.byteLength before) (.openingInside d.delimiters.opening)))
  /-- This is the quote of a string that has no end, inside a tag. -/
  | unterminatedString {quote : Char} {opened : Nat} (hq : quote = '"' ∨ quote = '\'')
    (hi : Token.tokenize d.delimiters (String.ofList before) = .error (.unclosedTag opened)) :
    Points d source before quote (.parse (.unterminatedString (Text.byteLength before)))
  /-- A tag of no known shape opens here. -/
  | unknownTag (markup : String) : Points d source before d.delimiters.opening
    (.parse (.unknownTag markup (Text.byteLength before)))
  /-- A tag that is refused opens here, or the first tag of a directive that is. -/
  | refused {refusal : TemplateError} (hr : Growth.Refuses (Text.byteLength before) refusal) :
    Points d source before d.delimiters.opening refusal
  /-- A piece of a tag begins here, between the delimiters of the tag. -/
  | expression {tokens inner : List Token} {opener closer token : Token} (c : Char)
    (reason : ExprError) (hr : Token.tokenize d.delimiters source = .ok tokens)
    (ht : Token.IsTag tokens opener inner closer) (hm : token ∈ inner)
    (hb : token.Begins d.operators.symbols (Text.byteLength before))
    (hopener : opener.position < Text.byteLength before)
    (hcloser : Text.byteLength before < closer.position) :
    Points d source before c (.expression (Text.byteLength before) reason)

/-- An error that is about a character reports its position. -/
theorem Points.position?_eq {before : List Char} {c : Char} (h : Points d source before c error) :
    error.position? = some (Text.byteLength before) := by
  cases h with
  | refused hr => cases hr <;> rfl
  | _ => rfl

/-- A text that is not cut into tokens is complained about at a character. -/
theorem points_of_tokenize {fault : ParseError}
    (h : Token.tokenize d.delimiters source = .error fault) :
    ∃ before c after, source.toList = before ++ c :: after ∧
      Points d source before c (.parse fault) := by
  have hbefore {before : List Char} {opened : Nat}
      (hb : Token.scan d.delimiters none before 0 = .error (.unclosedTag opened)) :
      Token.tokenize d.delimiters (String.ofList before) = .error (.unclosedTag opened) := by
    rwa [Token.tokenize, String.toList_ofList]
  cases Token.complaint_of_scan h with
  | unclosed hi => cases hi
  | @unclosedTag before after hcs =>
    rw [Nat.zero_add]
    exact ⟨before, _, after, hcs, .unclosedTag⟩
  | @malformedTag before after opened hcs hb =>
    rw [Nat.zero_add]
    exact ⟨before, _, after, hcs, .malformedTag (hbefore hb)⟩
  | @unterminatedString before after quote opened hcs hq hb =>
    rw [Nat.zero_add]
    exact ⟨before, quote, after, hcs, .unterminatedString hq (hbefore hb)⟩

/-- Tokens that form no forest are complained about at a character. -/
theorem points_of_ofUnits {tokens : List Token}
    (ht : Token.tokenize d.delimiters source = .ok tokens)
    (h : Forest.ofUnits d (Lex.ofTokens d tokens) = .error error) :
    ∃ before c after, source.toList = before ++ c :: after ∧ Points d source before c error := by
  have hlayout : Layout d.delimiters .outside 0 source.toList tokens := Token.layout_of_scan ht
  rcases Forest.refuses_of_ofUnits h with hm | ⟨tag, hm, hrefused⟩
  · have hread := Lex.readFrom_of_units hlayout _ hm
    generalize hresult : Except.error error = result at hread
    cases hread with
    | text s position => cases hresult
    | tag hit =>
      rcases LexedTag.ofPieces_eq_error (map_eq_error_iff.mp hresult.symm) with
        ⟨piece, hpiece, reason, rfl⟩ | ⟨markup, rfl⟩
      · obtain ⟨token, hinner, hpiece⟩ := List.mem_flatMap.mp hpiece
        have hb := TagPiece.begins_of_mem_ofToken hpiece
        obtain ⟨before, c, after, hcs, hplace, hopener, hcloser⟩ :=
          hlayout.exists_piece hit hinner hb
        rw [hplace] at hb hopener hcloser ⊢
        exact ⟨before, c, after, hcs, .expression c reason ht hit hinner hb hopener hcloser⟩
      · obtain ⟨before, after, hcs, hposition⟩ := hlayout.exists_opening hit
        rw [hposition]
        exact ⟨before, _, after, hcs, .unknownTag markup⟩
  · have hread := Lex.readFrom_of_units hlayout _ hm
    generalize hresult : Except.ok (Lex.tag tag) = result at hread
    cases hread with
    | text s position => cases hresult
    | tag hit =>
      obtain ⟨tag', hof, heq⟩ := map_eq_ok_iff.mp hresult.symm
      cases heq
      obtain ⟨before, after, hcs, hposition⟩ := hlayout.exists_opening hit
      rw [LexedTag.position_of_ofPieces hof, hposition] at hrefused
      exact ⟨before, _, after, hcs, .refused hrefused⟩

/-- In every dialect, a text that does not compile is complained about at a position in it: between
two characters and before the last of them ends. The character behind this position is the opening
delimiter if a tag is unclosed, unknown, unmatched or unexpected or its directive unterminated, and
also if the tag is malformed, where it is inside another one; it is a quote if a string is
unterminated; and if an expression does not read it is inside a tag, at the beginning of a token or
of a symbol of a run. -/
theorem points_of_compile (h : compile d source = .error error) :
    ∃ before c after, source.toList = before ++ c :: after ∧ Points d source before c error ∧
      error.position? = some (Text.byteLength before) ∧
      String.Pos.Raw.IsValid source ⟨Text.byteLength before⟩ ∧
      Text.byteLength before < source.utf8ByteSize := by
  have hpoints : ∃ before c after, source.toList = before ++ c :: after ∧
      Points d source before c error := by
    unfold compile at h
    split at h
    · next fault ht =>
      cases h
      exact points_of_tokenize ht
    · next tokens ht => exact points_of_ofUnits ht (map_eq_error_iff.mp h)
  obtain ⟨before, c, after, hcs, hpoints⟩ := hpoints
  refine ⟨before, c, after, hcs, hpoints, hpoints.position?_eq, Text.isValid_byteLength hcs, ?_⟩
  have hsize := Text.byteLength_toList source
  have hpositive := c.utf8Size_pos
  rw [hcs, Text.byteLength_append, Text.byteLength_cons] at hsize
  omega

/-- The law in the standard dialect, at an expression that does not read. -/
theorem points_of_compile_expression : ∃ d before c after error,
    Dialect.standard = .ok d ∧ compile d "é\x7ba\x7d\x7b2 *- \x7d" = .error error ∧
      "é\x7ba\x7d\x7b2 *- \x7d".toList = before ++ c :: after ∧
      Points d "é\x7ba\x7d\x7b2 *- \x7d" before c error ∧ error.position? = some 6 := by
  have hcheck : (Dialect.standard.toOption.any fun d =>
      match compile d "é\x7ba\x7d\x7b2 *- \x7d" with
      | .ok _ => false
      | .error error => decide (error.position? = some 6)) = true := by decide +kernel
  obtain ⟨d, hd, hcheck⟩ := exists_ok_of_any hcheck
  cases hc : compile d "é\x7ba\x7d\x7b2 *- \x7d" with
  | ok t =>
    rw [hc] at hcheck
    cases hcheck
  | error error =>
    rw [hc] at hcheck
    obtain ⟨before, c, after, hcs, hpoints, -⟩ := points_of_compile hc
    exact ⟨d, before, c, after, error, hd, hc, hcs, hpoints, of_decide_eq_true hcheck⟩

end Template
end TagTemplate
