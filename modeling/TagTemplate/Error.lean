import TagTemplate.Expr.Builder
import TagTemplate.TagShape

/-!
# Errors

Errors are split by the phase in which they arise: setting up a dialect, reading a template,
building an expression, and evaluation. The umbrella type names the phase. Positions are byte
offsets into the template.
-/

namespace TagTemplate

/-- Why a constant cannot have its name. -/
inductive ConstantFault where
  /-- The name is no identifier. -/
  | notIdentifier
  /-- The name is a keyword of a tag. -/
  | isKeyword
  deriving DecidableEq, Repr

/-- Why two characters cannot delimit tags. -/
inductive DelimiterFault where
  /-- They are the same. -/
  | equal (c : Char)
  /-- One of them belongs to names or blanks or quotes. -/
  | unusable (opening closing : Char)
  deriving DecidableEq, Repr

/-- Why a dialect cannot be set up. -/
inductive DialectError where
  /-- The markup of a tag is malformed. -/
  | invalidTag (markup : String) (fault : TagFault)
  /-- A symbol is taken. -/
  | duplicateOperator (clash : SymbolClash)
  /-- The name of a directive is taken. -/
  | duplicateDirective (name : String)
  /-- A directive has no tags. -/
  | emptyDirective (name : String)
  /-- A constant has a name that it cannot have. -/
  | invalidConstant (name : String) (fault : ConstantFault)
  /-- The delimiters cannot be used. -/
  | delimiters (fault : DelimiterFault)
  deriving DecidableEq, Repr

/-- The wording of a fault. -/
def ConstantFault.message : ConstantFault → String
  | .notIdentifier => "not an identifier"
  | .isKeyword => "is a directive keyword"

/-- The wording of a fault. -/
def DelimiterFault.message : DelimiterFault → String
  | .equal c => "tag start and end are both `" ++ c.toString ++ "`"
  | .unusable opening closing =>
    "`" ++ opening.toString ++ "`/`" ++ closing.toString ++ "` cannot delimit tags"

/-- The wording of an error. -/
def DialectError.message : DialectError → String
  | .invalidTag markup fault => "invalid tag markup `" ++ markup ++ "`: " ++ fault.message
  | .duplicateOperator clash =>
    "operator `" ++ clash.symbol ++ "` is already registered as a " ++ clash.wanted.name ++
      " operator"
  | .duplicateDirective name => "directive `" ++ name ++ "` is already registered"
  | .emptyDirective name => "directive `" ++ name ++ "` declares no tags"
  | .invalidConstant name fault => "invalid constant `" ++ name ++ "`: " ++ fault.message
  | .delimiters fault => "invalid delimiters: " ++ fault.message

/-- What makes a tag malformed. -/
inductive TagDefect where
  /-- The opening delimiter inside a tag. -/
  | openingInside (c : Char)
  /-- A token that cannot occur inside a tag. -/
  | strayToken
  /-- A token that can occur only inside a tag. -/
  | outside (text : String)
  deriving DecidableEq, Repr

/-- The wording of a defect. -/
def TagDefect.message : TagDefect → String
  | .openingInside c => "`" ++ c.toString ++ "` inside a tag"
  | .strayToken => "unexpected token inside tag"
  | .outside text => "`" ++ text ++ "` outside a tag"

/-- Why a text is not a template. -/
inductive ParseError where
  /-- A quoted string has no end. -/
  | unterminatedString (position : Nat)
  /-- A tag has no end. -/
  | unclosedTag (position : Nat)
  /-- A tag is malformed. -/
  | malformedTag (position : Nat) (defect : TagDefect)
  /-- A tag has none of the known shapes. -/
  | unknownTag (markup : String) (position : Nat)
  /-- No directive starts with a tag. -/
  | unmatchedTag (tag : String) (position : Nat)
  /-- A tag neither continues the open directive nor starts one. -/
  | unexpectedTag (tag : String) (position : Nat) (inside : List String)
  /-- A directive has no end; the directives that it could have become. -/
  | unterminatedDirective (candidates : List String) (position : Nat)
  deriving DecidableEq, Repr

/-- The wording of an error. -/
def ParseError.message : ParseError → String
  | .unterminatedString position => s!"unterminated string literal at offset {position}"
  | .unclosedTag position => s!"tag opened at offset {position} is never closed"
  | .malformedTag position defect => s!"malformed tag at offset {position}: " ++ defect.message
  | .unknownTag markup position =>
    "`" ++ markup ++ s!"` at offset {position} does not match any known tag"
  | .unmatchedTag tag position =>
    "no directive starts with tag `" ++ tag ++ s!"` (offset {position})"
  | .unexpectedTag tag position inside =>
    "tag `" ++ tag ++ s!"` at offset {position} is not expected inside " ++
      " / ".intercalate inside
  | .unterminatedDirective candidates position =>
    s!"directive opened at offset {position} is never terminated (candidates: " ++
      ", ".intercalate candidates ++ ")"

/-- Why an evaluation fails. -/
inductive EvalError where
  /-- It was cancelled. -/
  | cancelled
  /-- A free name has no value, and names must have one. -/
  | undefinedIdentifier (name : String)
  /-- A member does not exist, and members must. -/
  | unknownMember (member : String)
  /-- A member exists but fails. -/
  | reflection (member message : String)
  /-- A directive failed; where it stands, and why. -/
  | directive (name : String) (position : Nat) (source : EvalError)
  /-- A directive says so. -/
  | failed (message : String)
  /-- The output refuses a text. -/
  | write
  deriving DecidableEq, Repr

/-- The wording of an error. -/
def EvalError.message : EvalError → String
  | .cancelled => "evaluation cancelled"
  | .undefinedIdentifier name => "`" ++ name ++ "` is not defined"
  | .unknownMember member => "member `" ++ member ++ "` is not defined"
  | .reflection member message => "member `" ++ member ++ "` failed: " ++ message
  | .directive name position source =>
    "directive " ++ name ++ s!" at offset {position} failed: " ++ source.message
  | .failed message => message
  | .write => "failed to write output"

/-- Every error of a template, by its phase. -/
inductive TemplateError where
  /-- Setting up the dialect. -/
  | dialect (error : DialectError)
  /-- Reading the template. -/
  | parse (error : ParseError)
  /-- Building the expression at a position. -/
  | expression (position : Nat) (error : ExprError)
  /-- Evaluating. -/
  | evaluation (error : EvalError)
  /-- Cancelled, whatever was being done. -/
  | cancelled
  deriving DecidableEq, Repr

namespace TemplateError

/-- The wording of an error. -/
def message : TemplateError → String
  | .dialect error => error.message
  | .parse error => error.message
  | .expression position error => s!"expression at offset {position}: " ++ error.message
  | .evaluation error => error.message
  | .cancelled => "evaluation cancelled"

/-- Whether the text of the template is at fault. -/
def isCompileError : TemplateError → Bool
  | .dialect _ | .parse _ | .expression _ _ => true
  | .evaluation _ | .cancelled => false

/-- An error of evaluation under the umbrella, where cancellation stands on its own. -/
def ofEval : EvalError → TemplateError
  | .cancelled => .cancelled
  | error => .evaluation error

end TemplateError

end TagTemplate
