import TagTemplate.Proofs.Result
import TagTemplate.Proofs.Tag.Filled
import TagTemplate.Proofs.Token.Structure

/-!
# Texts that stand further on

A text that stands further on in a template has the same tokens and the same units, only further on.
Positions matter to nothing but the positions of what is made: what fills the slots of a tag depends
on the contents of its pieces alone.
-/

namespace TagTemplate

/-- The token, so many bytes further on. -/
def Token.displaced (n : Nat) (t : Token) : Token := { t with position := t.position + n }

/-- The tag, so many bytes further on. -/
def LexedTag.displaced (n : Nat) (t : LexedTag) : LexedTag := { t with position := t.position + n }

/-- The unit, so many bytes further on. -/
def Lex.displaced (n : Nat) : Lex → Lex
  | .text s position => .text s (position + n)
  | .tag t => .tag (t.displaced n)

@[simp] theorem Token.kind_displaced (n : Nat) (t : Token) : (t.displaced n).kind = t.kind := rfl

@[simp] theorem Token.text_displaced (n : Nat) (t : Token) : (t.displaced n).text = t.text := rfl

@[simp] theorem LexedTag.shape_displaced (n : Nat) (t : LexedTag) :
    (t.displaced n).shape = t.shape := rfl

namespace Token

variable {d : Delimiters} {inside next : Option Nat} {cs raw rest : List Char} {position : Nat}
  {read : Option Lexeme} {tokens : List Token}

theorem Round.displaced (h : Round d position inside raw rest read next) (n : Nat) :
    Round d (position + n) (inside.map (· + n)) raw rest read (next.map (· + n)) := by
  cases h with
  | text hn hs => exact .text hn hs
  | tagStart hs => exact .tagStart hs
  | blank hb => exact .blank hb
  | tagEnd hb => exact .tagEnd hb
  | part hb hc ho hl hraw => exact .part hb hc ho hl hraw

/-- What is read further on stands further on. -/
theorem Rounds.displaced (h : Rounds d [] none inside position cs tokens) (n : Nat) :
    Rounds d [] none (inside.map (· + n)) (position + n) cs (tokens.map (displaced n)) := by
  induction h with
  | done => exact .done
  | @round _ _ position _ _ read _ hr _ ih =>
    have hread : (ofRead position read).map (Token.displaced n) = ofRead (position + n) read := by
      cases read <;> rfl
    rw [List.map_append, hread]
    rw [Nat.add_right_comm] at ih
    exact .round (hr.displaced n) ih

/-- What is scanned further on stands further on. -/
theorem scan_displaced (h : scan d inside cs position = .ok tokens) (n : Nat) :
    scan d (inside.map (· + n)) cs (position + n) = .ok (tokens.map (displaced n)) :=
  scan_eq_ok_iff.mpr ((scan_eq_ok_iff.mp h).displaced n)

end Token

namespace TagShape

/-- Two fittings find the same, whatever was noted before. -/
def Agree {α : Type} (x y : Fitting α) : Prop :=
  ∀ noted noted', (x.run noted).1 = (y.run noted').1

namespace Agree

variable {α β : Type} {x y : Fitting α}

/-- What does not look at the note agrees with itself. -/
theorem found (a : α) : Agree (pure a) (pure a) := fun _ _ => rfl

theorem symm (h : Agree x y) : Agree y x := fun noted noted' => (h noted' noted).symm

/-- What follows on the same finding agrees if it does for each finding. -/
theorem bind {f g : α → Fitting β} (h : Agree x y) (hf : ∀ a, Agree (f a) (g a)) :
    Agree (x >>= f) (y >>= g) := by
  intro noted noted'
  change ((f (x.run noted).1).run (x.run noted).2).1 = ((g (y.run noted').1).run (y.run noted').2).1
  rw [h noted noted']
  exact hf _ _ _

/-- A step whose finding does not matter may be left out. -/
theorem after {f : α → Fitting β} {y : Fitting β} (h : ∀ a, Agree (f a) y) : Agree (x >>= f) y :=
  fun noted noted' => h (x.run noted).1 (x.run noted).2 noted'

end Agree

variable {d : Dialect} {operators : OperatorTable} {pieces pieces' : List TagPiece} {longest n : Nat}
  {fitRest fitRest' : List TagPiece → Fitting (Option (List TagPart))}

/-- A run of pieces that is no expression is passed over. -/
theorem agree_of_error {error : ExprError} {y : Fitting (Option (List TagPart))}
    (hb : ExprBuilder.build operators ((pieces.take (n + 1)).map TagPiece.content) = .error error)
    (h : Agree (fitExpression operators pieces longest fitRest n) y) :
    Agree (fitExpression operators pieces longest fitRest (n + 1)) y := by
  unfold fitExpression
  rw [hb]
  dsimp only
  split
  · split
    · exact .after fun _ => h
    · exact h
  · exact h

/-- A run of pieces that is an expression is taken if the slots after it are filled. -/
theorem fitExpression_of_ok {e : Expr}
    (hb : ExprBuilder.build operators ((pieces.take (n + 1)).map TagPiece.content) = .ok e) :
    fitExpression operators pieces longest fitRest (n + 1) =
      fitRest (pieces.drop (n + 1)) >>= fun found =>
        match found with
        | some parts => pure (some (.expression e :: parts))
        | none => fitExpression operators pieces longest fitRest n := by
  conv => lhs; unfold fitExpression
  generalize ExprBuilder.build operators ((pieces.take (n + 1)).map TagPiece.content) = built at hb ⊢
  subst hb
  exact congrArg (fitRest (pieces.drop (n + 1)) >>= ·) (funext fun found => by cases found <;> rfl)

/-- Whether an expression slot is filled, and with what, depends on the contents of the pieces. -/
theorem agree_fitExpression (hp : pieces.map TagPiece.content = pieces'.map TagPiece.content)
    (h : ∀ {rest rest' : List TagPiece}, rest.map TagPiece.content = rest'.map TagPiece.content →
      Agree (fitRest rest) (fitRest' rest')) (n : Nat) :
    Agree (fitExpression operators pieces longest fitRest n)
      (fitExpression operators pieces' longest fitRest' n) := by
  induction n with
  | zero => exact .found none
  | succ n ih =>
    have htake : (pieces'.take (n + 1)).map TagPiece.content =
        (pieces.take (n + 1)).map TagPiece.content := by
      rw [List.map_take, List.map_take, hp]
    have hdrop : (pieces.drop (n + 1)).map TagPiece.content =
        (pieces'.drop (n + 1)).map TagPiece.content := by
      rw [List.map_drop, List.map_drop, hp]
    cases hb : ExprBuilder.build operators ((pieces.take (n + 1)).map TagPiece.content) with
    | error error => exact agree_of_error hb (agree_of_error (htake ▸ hb) ih.symm).symm
    | ok e =>
      rw [fitExpression_of_ok hb, fitExpression_of_ok (htake ▸ hb)]
      refine (h hdrop).bind fun found => ?_
      cases found with
      | none => exact ih
      | some parts => exact .found _

/-- Pieces with the same contents are no pieces, or the same first content and pieces with the same
contents. -/
theorem cases_of_contents (hp : pieces.map TagPiece.content = pieces'.map TagPiece.content) :
    pieces = [] ∧ pieces' = [] ∨
      ∃ content position position' rest rest', pieces = ⟨content, position⟩ :: rest ∧
        pieces' = ⟨content, position'⟩ :: rest' ∧
        rest.map TagPiece.content = rest'.map TagPiece.content := by
  cases pieces with
  | nil => exact .inl ⟨rfl, (List.map_eq_nil_iff.mp hp.symm)⟩
  | cons piece rest => cases pieces' with
    | nil => cases hp
    | cons piece' rest' =>
      obtain ⟨hc, hrest⟩ := List.cons.inj hp
      exact .inr ⟨piece.content, piece.position, piece'.position, rest, rest', rfl,
        by rw [hc], hrest⟩

/-- Whether slots are filled, and with what, depends on the contents of the pieces. -/
theorem agree_fit (slots : List TagSlot)
    (hp : pieces.map TagPiece.content = pieces'.map TagPiece.content) :
    Agree (fit d slots pieces) (fit d slots pieces') := by
  induction slots generalizing pieces pieces' with
  | nil =>
    rcases cases_of_contents hp with ⟨rfl, rfl⟩ | ⟨_, _, _, _, _, rfl, rfl, _⟩ <;> exact .found _
  | cons slot slots ih =>
    cases slot with
    | keyword keyword =>
      rcases cases_of_contents hp with ⟨rfl, rfl⟩ | ⟨content, _, _, rest, rest', rfl, rfl, hr⟩
      · exact .found none
      · cases content with
        | identifier word =>
          unfold fit
          dsimp only
          split
          · exact (ih hr).bind fun found => .found _
          · exact .found none
        | _ => exact .found none
    | name =>
      rcases cases_of_contents hp with ⟨rfl, rfl⟩ | ⟨content, _, _, rest, rest', rfl, rfl, hr⟩
      · exact .found none
      · cases content with
        | identifier word =>
          unfold fit
          dsimp only
          split
          · exact .found none
          · exact (ih hr).bind fun found => .found _
        | _ => exact .found none
    | expression =>
      have hlongest : (pieces.takeWhile fun piece => !piece.isKeyword d).length =
          (pieces'.takeWhile fun piece => !piece.isKeyword d).length := by
        have hcontents : ∀ ps : List TagPiece,
            (ps.takeWhile fun piece => !piece.isKeyword d).length =
              ((ps.map TagPiece.content).takeWhile fun content =>
                !TagPiece.isKeyword d ⟨content, 0⟩).length := by
          intro ps
          rw [List.takeWhile_map, List.length_map]
          rfl
        rw [hcontents, hp, ← hcontents]
      unfold fit
      rw [hlongest]
      exact agree_fitExpression hp ih _

/-- Which of the shapes pieces fit depends on their contents. -/
theorem agree_fitFirst (shapes : List TagShape)
    (hp : pieces.map TagPiece.content = pieces'.map TagPiece.content) :
    Agree (fitFirst d pieces shapes) (fitFirst d pieces' shapes) := by
  induction shapes with
  | nil => exact .found none
  | cons shape shapes ih =>
    refine (agree_fit shape.slots hp).bind fun found => ?_
    cases found with
    | none => exact ih
    | some parts => exact .found _

end TagShape

/-- Pieces with the contents of those of a tag form the same tag, wherever they stand. -/
theorem LexedTag.ofPieces_of_contents {d : Dialect} {pieces pieces' : List TagPiece}
    {position : Nat} {tag : LexedTag} (h : ofPieces d position pieces = .ok tag)
    (hp : pieces.map TagPiece.content = pieces'.map TagPiece.content) (n : Nat) :
    ofPieces d (position + n) pieces' = .ok (tag.displaced n) := by
  have ha := TagShape.agree_fitFirst (d := d) d.shapes hp none none
  unfold ofPieces at h ⊢
  split at h
  · next shape parts noted hf =>
    cases h
    rw [hf] at ha
    rcases hf' : (TagShape.fitFirst d pieces' d.shapes).run none with ⟨found, noted'⟩
    rw [hf'] at ha
    dsimp only at ha
    rw [← ha]
    rfl
  · cases h
  · cases h

namespace TagPiece

/-- What is placed are the symbols, wherever they are placed. -/
theorem contents_place (pieces : List String) (position : Nat) :
    (place position pieces).map content = pieces.map ExprPiece.symbol := by
  induction pieces generalizing position with
  | nil => rfl
  | cons symbol rest ih => exact congrArg (ExprPiece.symbol symbol :: ·) (ih _)

/-- What a token becomes does not depend on where it stands. -/
theorem contents_ofToken (d : Dialect) (symbols : List String) (token : Token) (n : Nat) :
    (ofToken d symbols token).map content = (ofToken d symbols (token.displaced n)).map content := by
  unfold ofToken
  rw [Token.kind_displaced, Token.text_displaced]
  cases token.kind with
  | word =>
    dsimp only
    cases d.constant? token.text with
    | none => rfl
    | some v => cases d.isKeyword token.text <;> rfl
  | symbol => exact (contents_place _ _).trans (contents_place _ _).symm
  | _ => rfl

end TagPiece

namespace Lex

variable {d : Dialect} {symbols : List String} {opened : Nat} {token : Token} {rest after : List Token}
  {pieces : List TagPiece}

/-- The pieces of a tag end with it, or begin with those of its first part. -/
theorem interior_cons_eq_ok_iff :
    interior d symbols opened (token :: rest) = (.ok pieces, after) ↔
      token.kind = .tagEnd ∧ pieces = [] ∧ after = rest ∨
        token.kind ∈ TokenKind.parts ∧ ∃ inner, interior d symbols opened rest = (.ok inner, after) ∧
          pieces = TagPiece.ofToken d symbols token ++ inner := by
  have hpart : ((interior d symbols opened rest).1.map (TagPiece.ofToken d symbols token ++ ·),
      (interior d symbols opened rest).2) = (.ok pieces, after) ↔
        ∃ inner, interior d symbols opened rest = (.ok inner, after) ∧
          pieces = TagPiece.ofToken d symbols token ++ inner := by
    rcases interior d symbols opened rest with ⟨error | inner, left⟩
    · simp [Except.map]
    · simp [Except.map, and_comm, eq_comm]
  rw [interior]
  cases hk : token.kind <;> simp [TokenKind.parts, hpart, eq_comm]

/-- The pieces of a tag that stands further on have the same contents. -/
theorem interior_displaced {opened' : Nat} {tokens : List Token}
    (h : interior d symbols opened tokens = (.ok pieces, after)) (n : Nat) :
    ∃ pieces', interior d symbols opened' (tokens.map (Token.displaced n)) =
        (.ok pieces', after.map (Token.displaced n)) ∧
      pieces.map TagPiece.content = pieces'.map TagPiece.content := by
  induction tokens generalizing pieces with
  | nil => cases h
  | cons token rest ih =>
    rcases interior_cons_eq_ok_iff.mp h with ⟨hk, rfl, rfl⟩ | ⟨hk, inner, hi, rfl⟩
    · exact ⟨[], interior_cons_eq_ok_iff.mpr (.inl ⟨hk, rfl, rfl⟩), rfl⟩
    · obtain ⟨inner', hi', hc⟩ := ih hi
      refine ⟨_, interior_cons_eq_ok_iff.mpr (.inr ⟨hk, inner', hi', rfl⟩), ?_⟩
      rw [List.map_append, List.map_append, TagPiece.contents_ofToken d symbols token n, hc]

/-- The units of tokens begin with a text, or with a tag up to its end. -/
theorem units_cons_eq_ok_iff {unit : Lex} {us : List Lex} :
    units d symbols (token :: rest) = (unit :: us).map .ok ↔
      token.kind = .text ∧ unit = .text token.text token.position ∧
          units d symbols rest = us.map .ok ∨
        token.kind = .tagStart ∧ ∃ pieces after tag,
          interior d symbols token.position rest = (.ok pieces, after) ∧
          LexedTag.ofPieces d token.position pieces = .ok tag ∧ unit = .tag tag ∧
          units d symbols after = us.map .ok := by
  rw [units, List.map_cons, List.cons.injEq]
  unfold first
  cases hk : token.kind with
  | text => simp [eq_comm]
  | tagStart =>
    rcases hi : interior d symbols token.position rest with ⟨error | pieces, after⟩
    · simp
    · cases ht : LexedTag.ofPieces d token.position pieces with
      | error error => simp [Except.map, ht]
      | ok tag => simp [Except.map, ht, eq_comm (a := unit)]
  | _ => simp

/-- The units of what stands further on stand further on. -/
theorem units_displaced {tokens : List Token} {us : List Lex}
    (h : units d symbols tokens = us.map .ok) (n : Nat) :
    units d symbols (tokens.map (Token.displaced n)) = (us.map (displaced n)).map .ok := by
  induction us generalizing tokens with
  | nil =>
    cases tokens with
    | nil => rw [List.map_nil, units]; rfl
    | cons token rest =>
      rw [units] at h
      cases h
  | cons unit us ih =>
    cases tokens with
    | nil =>
      rw [units] at h
      cases h
    | cons token rest =>
      rw [List.map_cons, List.map_cons]
      refine units_cons_eq_ok_iff.mpr ?_
      rcases units_cons_eq_ok_iff.mp h with ⟨hk, rfl, hr⟩ | ⟨hk, pieces, after, tag, hi, ht, rfl, hr⟩
      · exact .inl ⟨hk, rfl, ih hr⟩
      · obtain ⟨pieces', hi', hc⟩ := interior_displaced hi n
        exact .inr ⟨hk, pieces', _, _, hi', LexedTag.ofPieces_of_contents ht hc n, rfl, ih hr⟩

end Lex

end TagTemplate
