import TagTemplate.Dialect

/-!
# Lexed tags

The tokens of a tag are cut into pieces, and the pieces are fitted to the shapes of the dialect
in the order of registration. A keyword or a name takes one word. An expression takes the
longest run of pieces that reads as an expression and lets the rest of the shape fit; it never
runs past a keyword.
-/

namespace TagTemplate

/-- A piece of a tag: a word, a literal or the symbol of an operator, with its position. -/
structure TagPiece where
  /-- What it is; a word that is no constant counts as a name. -/
  content : ExprPiece
  /-- Where it begins. -/
  position : Nat

/-- What fills a slot of a tag. -/
inductive TagPart where
  /-- The keyword, as it is written. -/
  | keyword (word : String)
  /-- The name. -/
  | name (name : String)
  /-- The expression. -/
  | expression (e : Expr)

/-- A tag whose slots are filled. -/
structure LexedTag where
  /-- The shape. -/
  shape : TagShape
  /-- What fills the slots, in order. -/
  parts : List TagPart
  /-- Where the tag opens. -/
  position : Nat

/-- A unit of a template. -/
inductive Lex where
  /-- Text outside tags. -/
  | text (s : String) (position : Nat)
  /-- A tag. -/
  | tag (t : LexedTag)

namespace TagPiece

/-- The longest of the symbols that the characters begin with. -/
def longestSymbol (symbols : List String) (run : List Char) : Option String :=
  symbols.foldl
    (fun best symbol =>
      if symbol.toList.isPrefixOf run &&
          (match best with
            | none => true
            | some b => decide (b.length < symbol.length))
      then some symbol else best)
    none

/-- A round of splitting that cuts off the empty symbol leaves the run as it was, and the same round
follows, without end. -/
def sameRound (run : List Char) : Option (List String) := sameRound run
partial_fixpoint

/-- A run of symbols cut into operators, round by round, each the longest at its place. What no
operator begins is left whole. Splitting has no result where it comes to a place at which only the
empty symbol begins the rest, as it does not get past that. -/
def splitRun (symbols : List String) (run : List Char) : Option (List String) :=
  match run with
  | [] => some []
  | c :: rest =>
    match longestSymbol symbols (c :: rest) with
    | none => some [String.ofList (c :: rest)]
    | some symbol =>
      if symbol = "" then sameRound (c :: rest)
      else (splitRun symbols (rest.drop (symbol.length - 1))).map (symbol :: ·)
  termination_by run.length
  decreasing_by simp only [List.length_cons, List.length_drop]; omega

/-- Symbols one behind the other, the first of them at a position. -/
def place (position : Nat) : List String → List TagPiece
  | [] => []
  | symbol :: rest => ⟨.symbol symbol, position⟩ :: place (position + symbol.utf8ByteSize) rest

/-- The pieces that a token inside a tag becomes. A constant is replaced by its value unless it
is a keyword. Nothing follows a splitting without end, so what is put for its pieces is not seen. -/
def ofToken (d : Dialect) (symbols : List String) (token : Token) : List TagPiece :=
  match token.kind with
  | .word =>
    match d.constant? token.text with
    | some v =>
      if d.isKeyword token.text then [⟨.identifier token.text, token.position⟩]
      else [⟨.literal v, token.position⟩]
    | none => [⟨.identifier token.text, token.position⟩]
  | .number => [⟨.literal (.number ((Number.read token.text).getD .nan)), token.position⟩]
  | .string => [⟨.literal (.text token.text), token.position⟩]
  | .symbol => place token.position ((splitRun symbols token.text.toList).getD [])
  | .text | .tagStart | .tagEnd => []

/-- The word, if the piece is one. -/
def word? (piece : TagPiece) : Option String :=
  match piece.content with
  | .identifier word => some word
  | _ => none

/-- Whether the piece is a keyword. -/
def isKeyword (d : Dialect) (piece : TagPiece) : Bool :=
  match piece.word? with
  | some word => d.isKeyword word
  | none => false

/-- How messages show a piece. -/
def display (piece : TagPiece) : String :=
  match piece.content with
  | .identifier word => word
  | .symbol s => s
  | .literal v => v.literal

end TagPiece

namespace TagShape

/-- Fitting with a note of the first error: where the longest run of an expression slot that was
tried does not read as an expression, and why. -/
abbrev Fitting := StateM (Option (Nat × ExprError))

/-- Makes a note unless there is one. -/
def note (position : Nat) (error : ExprError) : Fitting Unit :=
  modify fun noted => noted.or (some (position, error))

/-- The longest of the first `n` pieces, at least one, that form an expression after which
`fitRest` succeeds. An error is noted for a run of `longest` pieces only. -/
def fitExpression (operators : OperatorTable) (pieces : List TagPiece) (longest : Nat)
    (fitRest : List TagPiece → Fitting (Option (List TagPart))) :
    Nat → Fitting (Option (List TagPart))
  | 0 => pure none
  | n + 1 => do
    match ExprBuilder.build operators ((pieces.take (n + 1)).map TagPiece.content) with
    | .ok e =>
      match ← fitRest (pieces.drop (n + 1)) with
      | some parts => return some (.expression e :: parts)
      | none => fitExpression operators pieces longest fitRest n
    | .error error =>
      if n + 1 = longest then
        if let some first := pieces.head? then note first.position error
      fitExpression operators pieces longest fitRest n

/-- Fills slots with all of the pieces. -/
def fit (d : Dialect) : List TagSlot → List TagPiece → Fitting (Option (List TagPart))
  | [], pieces => pure (if pieces.isEmpty then some [] else none)
  | .keyword keyword :: slots, pieces =>
    match pieces with
    | ⟨.identifier word, _⟩ :: rest =>
      if d.nameCase.same keyword word then do
        return (← fit d slots rest).map (.keyword word :: ·)
      else pure none
    | _ => pure none
  | .name :: slots, pieces =>
    match pieces with
    | ⟨.identifier word, _⟩ :: rest =>
      if d.isKeyword word then pure none
      else do return (← fit d slots rest).map (.name word :: ·)
    | _ => pure none
  | .expression :: slots, pieces =>
    let longest := (pieces.takeWhile fun piece => !piece.isKeyword d).length
    fitExpression d.operators pieces longest (fit d slots) longest

/-- The first of the shapes that the pieces fit. -/
def fitFirst (d : Dialect) (pieces : List TagPiece) :
    List TagShape → Fitting (Option (TagShape × List TagPart))
  | [] => pure none
  | shape :: rest => do
    match ← fit d shape.slots pieces with
    | some parts => return some (shape, parts)
    | none => fitFirst d pieces rest

end TagShape

namespace LexedTag

/-- The tag that pieces form; `position` is where it opens. -/
def ofPieces (d : Dialect) (position : Nat) (pieces : List TagPiece) :
    Except TemplateError LexedTag :=
  match (TagShape.fitFirst d pieces d.shapes).run none with
  | (some (shape, parts), _) => .ok ⟨shape, parts, position⟩
  | (none, some (place, error)) => .error (.expression place error)
  | (none, none) =>
    .error (.parse (.unknownTag (" ".intercalate (pieces.map TagPiece.display)) position))

end LexedTag

namespace Lex

/-- The pieces up to the end of a tag that opens at `opened`, and the tokens after it. A failure
leaves the tokens that it has not looked at. -/
def interior (d : Dialect) (symbols : List String) (opened : Nat) :
    List Token → Except ParseError (List TagPiece) × List Token
  | [] => (.error (.unclosedTag opened), [])
  | token :: rest =>
    match token.kind with
    | .tagEnd => (.ok [], rest)
    | .text | .tagStart => (.error (.malformedTag token.position .strayToken), rest)
    | .word | .number | .string | .symbol =>
      let (pieces, after) := interior d symbols opened rest
      (pieces.map (TagPiece.ofToken d symbols token ++ ·), after)

theorem length_interior_le (d : Dialect) (symbols : List String) (opened : Nat)
    (tokens : List Token) : (interior d symbols opened tokens).2.length ≤ tokens.length := by
  induction tokens with
  | nil => simp [interior]
  | cons token rest ih => cases hk : token.kind <;> simp [interior, hk] <;> omega

/-- The first unit of the tokens, or its error, and the tokens after it. -/
def first (d : Dialect) (symbols : List String) (token : Token) (rest : List Token) :
    Except TemplateError Lex × List Token :=
  match token.kind with
  | .text => (.ok (.text token.text token.position), rest)
  | .tagStart =>
    match interior d symbols token.position rest with
    | (.error error, after) => (.error (.parse error), after)
    | (.ok pieces, after) => ((LexedTag.ofPieces d token.position pieces).map .tag, after)
  | .tagEnd | .word | .number | .string | .symbol =>
    (.error (.parse (.malformedTag token.position (.outside token.text))), rest)

theorem length_first_le (d : Dialect) (symbols : List String) (token : Token)
    (rest : List Token) : (first d symbols token rest).2.length ≤ rest.length := by
  have h := length_interior_le d symbols token.position rest
  unfold first
  split
  · simp
  · split <;> simp_all
  all_goals simp

/-- The units of the tokens. Reading goes on after an error. -/
def units (d : Dialect) (symbols : List String) (tokens : List Token) :
    List (Except TemplateError Lex) :=
  match tokens with
  | [] => []
  | token :: rest =>
    let step := first d symbols token rest
    step.1 :: units d symbols step.2
  termination_by tokens.length
  decreasing_by
    have := length_first_le d symbols token rest
    simp only [List.length_cons]
    omega

/-- The units of the tokens, in a dialect. -/
def ofTokens (d : Dialect) (tokens : List Token) : List (Except TemplateError Lex) :=
  units d d.operators.symbols tokens

end Lex

end TagTemplate
