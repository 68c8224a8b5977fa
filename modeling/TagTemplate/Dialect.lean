import TagTemplate.Directive
import TagTemplate.Error
import TagTemplate.Operator.Table
import TagTemplate.Token

/-!
# Dialects

A dialect fixes how names and texts are compared, what delimits tags, the operators, the
directives, the named constants and the text of undefined values. It is described by a list of
settings, each of which changes a draft, and it exists only if the finished draft is coherent:
delimiters that cannot be part of anything else, directives with distinct names and well-formed
tags, constants with names of their own.
-/

namespace TagTemplate

/-- A directive with the shapes of its tags. -/
structure RegisteredDirective where
  /-- The directive. -/
  directive : Directive
  /-- The shapes, in order. -/
  shapes : List TagShape

/-- A dialect. -/
structure Dialect where
  /-- The name. -/
  name : String
  /-- How names are compared. -/
  nameCase : NameCase
  /-- How texts are compared. -/
  collation : Collation
  /-- What delimits tags. -/
  delimiters : Delimiters
  /-- The operators. -/
  operators : OperatorTable
  /-- The directives, in the order of registration. -/
  directives : List RegisteredDirective
  /-- The distinct shapes of tags, in the order of their first occurrence. -/
  shapes : List TagShape
  /-- The distinct keywords, in the order of their first occurrence. -/
  keywords : List String
  /-- The named constants. -/
  constants : Record Value
  /-- Whether runs of blanks in text are written as one space. -/
  collapsesBlanks : Bool
  /-- The text of values. -/
  coercion : Coercion

namespace Dialect

/-- Whether a word is a keyword. -/
def isKeyword (d : Dialect) (word : String) : Bool :=
  d.keywords.any fun keyword => d.nameCase.same keyword word

/-- The value of a named constant. -/
def constant? (d : Dialect) (word : String) : Option Value :=
  d.constants.find? d.nameCase word

/-- A dialect in the making. -/
structure Draft where
  /-- The name. -/
  name : String
  /-- How names are compared. -/
  nameCase : NameCase
  /-- How texts are compared. -/
  collation : Collation
  /-- What delimits tags. -/
  delimiters : Delimiters
  /-- The operators that could be registered. -/
  operators : OperatorTable
  /-- The first operator that could not. -/
  clash : Option SymbolClash
  /-- The directives. -/
  directives : List Directive
  /-- The text of undefined values, where no coercion is given. -/
  undefinedText : String
  /-- A coercion that takes the place of that text. -/
  coercion : Option Coercion
  /-- Whether runs of blanks in text are written as one space. -/
  collapsesBlanks : Bool
  /-- The named constants. -/
  constants : Record Value

/-- The constants that every dialect has. -/
def defaultConstants : Record Value :=
  [ ("true", .bool true), ("false", .bool false), ("undefined", .undefined),
    ("NaN", .number .nan), ("Infinity", .number (.infinite false)) ]

/-- A change to a draft. -/
inductive Setting where
  /-- How names are compared. -/
  | nameCase (nameCase : NameCase)
  /-- How texts are compared. -/
  | collation (collation : Collation)
  /-- What delimits tags. -/
  | delimiters (delimiters : Delimiters)
  /-- The text of undefined values. -/
  | undefinedText (text : String)
  /-- A coercion, whatever the text of undefined values. -/
  | coercion (coercion : Coercion)
  /-- Whether runs of blanks in text are written as one space. -/
  | collapse (on : Bool)
  /-- A named constant, new or with another value. -/
  | constant (name : String) (value : Value)
  /-- An operator. -/
  | operator (op : Operator)
  /-- The standard operators. -/
  | standardOperators
  /-- A directive. -/
  | directive (directive : Directive)
  /-- The standard directives. -/
  | standardDirectives

namespace Draft

/-- Where every draft starts. -/
def new (name : String) : Draft where
  name := name
  nameCase := .insensitive
  collation := .ordinal
  delimiters := ⟨'\x7b', '\x7d'⟩
  operators := .empty
  clash := none
  directives := []
  undefinedText := "undefined"
  coercion := none
  collapsesBlanks := false
  constants := defaultConstants

/-- Registers an operator, or remembers the first clash. -/
def register (draft : Draft) (op : Operator) : Draft :=
  match draft.operators.register op with
  | .ok operators => { draft with operators }
  | .error clash => { draft with clash := draft.clash.or (some clash) }

/-- Makes one change. -/
def change (draft : Draft) : Setting → Draft
  | .nameCase nameCase => { draft with nameCase }
  | .collation collation => { draft with collation }
  | .delimiters delimiters => { draft with delimiters }
  | .undefinedText text => { draft with undefinedText := text }
  | .coercion coercion => { draft with coercion := some coercion }
  | .collapse on => { draft with collapsesBlanks := on }
  | .constant name value => { draft with constants := draft.constants.insert name value }
  | .operator op => draft.register op
  | .standardOperators => OperatorTable.standardOperators.foldl register draft
  | .directive directive => { draft with directives := draft.directives ++ [directive] }
  | .standardDirectives => { draft with directives := draft.directives ++ Directive.allStandard }

/-- The draft that settings make of a new one, in order. -/
def ofSettings (name : String) (settings : List Setting) : Draft :=
  settings.foldl change (new name)

end Draft

/-- Characters that delimit nothing, as they belong to names, blanks or quotes. -/
def isUnusable (c : Char) : Bool :=
  Text.isAlphabetic c || Text.isNumeric c || Text.isBlank c || c == '"' || c == '\''

/-- Checks that two characters can delimit tags. -/
def checkDelimiters (d : Delimiters) : Except DialectError Unit :=
  if d.opening = d.closing then .error (.delimiters (.equal d.opening))
  else if isUnusable d.opening || isUnusable d.closing then
    .error (.delimiters (.unusable d.opening d.closing))
  else .ok ()

/-- The shapes that the markup of tags describes. -/
def parseShapes : List String → Except DialectError (List TagShape)
  | [] => .ok []
  | markup :: rest =>
    match TagShape.parse markup with
    | .error fault => .error (.invalidTag markup fault)
    | .ok shape => (parseShapes rest).map (shape :: ·)

/-- Registers directives after those that are registered. -/
def registerDirectives (nameCase : NameCase) (registered : List RegisteredDirective) :
    List Directive → Except DialectError (List RegisteredDirective)
  | [] => .ok registered
  | directive :: rest =>
    if registered.any fun r => nameCase.same r.directive.name directive.name then
      .error (.duplicateDirective directive.name)
    else
      match parseShapes directive.tags with
      | .error error => .error error
      | .ok [] => .error (.emptyDirective directive.name)
      | .ok shapes => registerDirectives nameCase (registered ++ [⟨directive, shapes⟩]) rest

/-- The items of a list that agree with no earlier one. -/
def distinct {α : Type} (same : α → α → Bool) (items : List α) : List α :=
  items.foldl
    (fun kept item => if kept.any fun k => same k item then kept else kept ++ [item]) []

/-- Files a constant under its name. It takes the place of one whose name agrees. -/
def placeConstant (nameCase : NameCase) (name : String) (value : Value) :
    Record Value → Record Value
  | [] => [(name, value)]
  | (n, v) :: rest =>
    if nameCase.same n name then (name, value) :: rest
    else (n, v) :: placeConstant nameCase name value rest

/-- Files constants after those that are filed. -/
def placeConstants (nameCase : NameCase) (keywords : List String) (filed : Record Value) :
    Record Value → Except DialectError (Record Value)
  | [] => .ok filed
  | (name, value) :: rest =>
    if !Name.isIdentifier name then .error (.invalidConstant name .notIdentifier)
    else if keywords.any fun keyword => nameCase.same keyword name then
      .error (.invalidConstant name .isKeyword)
    else placeConstants nameCase keywords (placeConstant nameCase name value filed) rest

/-- The dialect that a draft describes. -/
def ofDraft (draft : Draft) : Except DialectError Dialect := do
  if let some clash := draft.clash then throw (.duplicateOperator clash)
  checkDelimiters draft.delimiters
  let directives ← registerDirectives draft.nameCase [] draft.directives
  let shapes := directives.flatMap RegisteredDirective.shapes
  let keywords := distinct draft.nameCase.same (shapes.flatMap TagShape.keywords)
  let constants ← placeConstants draft.nameCase keywords [] draft.constants
  return {
    name := draft.name
    nameCase := draft.nameCase
    collation := draft.collation
    delimiters := draft.delimiters
    operators := draft.operators
    directives
    shapes := distinct (TagShape.same draft.nameCase) shapes
    keywords
    constants
    collapsesBlanks := draft.collapsesBlanks
    coercion := draft.coercion.getD ⟨draft.undefinedText⟩
  }

/-- The dialect that settings describe. -/
def ofSettings (name : String) (settings : List Setting) : Except DialectError Dialect :=
  ofDraft (.ofSettings name settings)

/-- The standard dialect: names in any case, texts compared as they are, braces around tags. -/
def standard : Except DialectError Dialect :=
  ofSettings "standard" [.standardOperators, .standardDirectives]

/-- The standard dialect with names whose case counts. -/
def strict : Except DialectError Dialect :=
  ofSettings "strict"
    [.nameCase .sensitive, .collation .ordinal, .standardOperators, .standardDirectives]

/-- A summary of a dialect on one line. -/
def summary (d : Dialect) : String :=
  "Dialect \x7b name: " ++ Text.quoted d.name ++ ", identifiers: " ++ d.nameCase.name ++
    ", strings: " ++ d.collation.name ++ ", tag_start: " ++ Text.quotedSingle d.delimiters.opening ++
    ", tag_end: " ++ Text.quotedSingle d.delimiters.closing ++ ", directives: " ++
    toString d.directives.length ++ ", collapse_whitespace: " ++ toString d.collapsesBlanks ++
    " \x7d"

end Dialect

end TagTemplate
