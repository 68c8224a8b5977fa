import TagTemplate.Error
import TagTemplate.Text.Utf8

/-!
# Tokens

A template is text with tags between two delimiters. Outside tags a doubled opening delimiter
stands for one such character. Inside a tag there are words, numbers, quoted strings and runs of
symbols, with blanks between them; which operators a run consists of is left open here. Every
token is read from a raw span of the template, and only blanks inside tags belong to none.
-/

namespace TagTemplate

/-- The kinds of tokens. -/
inductive TokenKind where
  /-- Text outside tags. -/
  | text
  /-- The delimiter that opens a tag. -/
  | tagStart
  /-- The delimiter that closes a tag. -/
  | tagEnd
  /-- A name or keyword. -/
  | word
  /-- A numeral. -/
  | number
  /-- A quoted string. -/
  | string
  /-- A run of symbols. -/
  | symbol
  deriving DecidableEq, Repr

/-- A token with the byte offset at which it begins. -/
structure Token where
  /-- The kind. -/
  kind : TokenKind
  /-- The text; for text without doubling, for a string without quotes and escapes. -/
  text : String
  /-- Where it begins. -/
  position : Nat
  deriving DecidableEq, Repr

/-- The characters around tags. -/
structure Delimiters where
  /-- Opens a tag. -/
  opening : Char
  /-- Closes a tag. -/
  closing : Char
  deriving DecidableEq, Repr

/-- A token before it has a place: its kind, its text, and the characters it is read from. -/
structure Lexeme where
  /-- The kind. -/
  kind : TokenKind
  /-- The text. -/
  text : List Char
  /-- What is written in the template. -/
  raw : List Char
  deriving DecidableEq, Repr

namespace Lexeme

/-- The token that a lexeme becomes at a position. -/
def token (lexeme : Lexeme) (position : Nat) : Token :=
  ⟨lexeme.kind, String.ofList lexeme.text, position⟩

/-- A lexeme whose text is what is written. -/
def verbatim (kind : TokenKind) (raw : List Char) : Lexeme := ⟨kind, raw, raw⟩

/-- The text at the front of a template, up to a single opening delimiter, and its raw span. -/
def textSpan (opening : Char) : List Char → List Char × List Char
  | [] => ([], [])
  | c :: rest =>
    if c = opening then
      match rest with
      | d :: after =>
        if d = opening then
          let (text, raw) := textSpan opening after
          (c :: text, c :: d :: raw)
        else ([], [])
      | [] => ([], [])
    else
      let (text, raw) := textSpan opening rest
      (c :: text, c :: raw)

/-- The digits after a decimal point. A point that no digit follows belongs to what comes
next. -/
def fractionSpan : List Char → List Char
  | '.' :: c :: rest => if c.isDigit then '.' :: c :: rest.takeWhile Char.isDigit else []
  | _ => []

/-- The sign of an exponent. -/
def signSpan : List Char → List Char
  | c :: _ => if c = '+' ∨ c = '-' then [c] else []
  | [] => []

/-- An exponent mark with its digits; one without digits belongs to what comes next. -/
def exponentSpan : List Char → List Char
  | [] => []
  | c :: rest =>
    if c = 'e' ∨ c = 'E' then
      let sign := signSpan rest
      let digits := (rest.drop sign.length).takeWhile Char.isDigit
      if digits.isEmpty then [] else c :: sign ++ digits
    else []

/-- A numeral at the front of a template. -/
def numberSpan (cs : List Char) : List Char :=
  let whole := cs.takeWhile Char.isDigit
  let afterWhole := cs.drop whole.length
  let fraction := fractionSpan afterWhole
  whole ++ fraction ++ exponentSpan (afterWhole.drop fraction.length)

/-- The character that a backslash and `c` stand for. -/
def unescape (c : Char) : Char :=
  if c = 'n' then '\n' else if c = 't' then '\t' else if c = 'r' then '\r' else c

/-- What a string holds after its opening quote, and its raw span with the closing quote; none
when it has no end. -/
def stringSpan (quote : Char) : List Char → Option (List Char × List Char)
  | [] => none
  | c :: rest =>
    if c = quote then some ([], [c])
    else if c = '\\' then
      match rest with
      | [] => none
      | e :: after =>
        (stringSpan quote after).map fun (text, raw) => (unescape e :: text, c :: e :: raw)
    else (stringSpan quote rest).map fun (text, raw) => (c :: text, c :: raw)

/-- Characters that continue a run of symbols. -/
def isSymbolPart (d : Delimiters) (c : Char) : Bool :=
  !(Name.isPart c || Text.isBlank c || c == '"' || c == '\'' || c == d.opening ||
    c == d.closing)

/-- The lexeme that begins with `c` inside a tag, where `c` is neither a blank nor a delimiter;
none when it is a string without an end. -/
def inTag? (d : Delimiters) (c : Char) (rest : List Char) : Option Lexeme :=
  if Name.isStart c then some (verbatim .word ((c :: rest).takeWhile Name.isPart))
  else if c.isDigit then some (verbatim .number (numberSpan (c :: rest)))
  else if c = '"' ∨ c = '\'' then
    (stringSpan c rest).map fun (text, raw) => ⟨.string, text, c :: raw⟩
  else some (verbatim .symbol (c :: rest.takeWhile (isSymbolPart d)))

end Lexeme

namespace Token

/-- The tokens of what is left of a template from a position on. Inside a tag, `inside` is
where the tag opens. -/
def scan (d : Delimiters) (inside : Option Nat) (cs : List Char) (position : Nat) :
    Except ParseError (List Token) :=
  match cs, inside with
  | [], none => .ok []
  | [], some opened => .error (.unclosedTag opened)
  | c :: rest, none =>
    let (text, raw) := Lexeme.textSpan d.opening (c :: rest)
    if raw.isEmpty then
      (scan d (some position) rest (position + c.utf8Size)).map
        ((Lexeme.verbatim .tagStart [c]).token position :: ·)
    else
      (scan d none (rest.drop (raw.length - 1)) (position + Text.byteLength raw)).map
        ((⟨.text, text, raw⟩ : Lexeme).token position :: ·)
  | c :: rest, some opened =>
    if Text.isBlank c then scan d (some opened) rest (position + c.utf8Size)
    else if c = d.closing then
      (scan d none rest (position + c.utf8Size)).map
        ((Lexeme.verbatim .tagEnd [c]).token position :: ·)
    else if c = d.opening then .error (.malformedTag position (.openingInside c))
    else
      match Lexeme.inTag? d c rest with
      | none => .error (.unterminatedString position)
      | some lexeme =>
        (scan d (some opened) (rest.drop (lexeme.raw.length - 1))
          (position + Text.byteLength lexeme.raw)).map (lexeme.token position :: ·)
  termination_by cs.length
  decreasing_by all_goals simp only [List.length_cons, List.length_drop]; omega

/-- The tokens of a template. -/
def tokenize (d : Delimiters) (source : String) : Except ParseError (List Token) :=
  scan d none source.toList 0

end Token

end TagTemplate
