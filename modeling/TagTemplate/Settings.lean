import TagTemplate.Context

/-!
# Settings files

A settings file has one setting on a line, as a key and a value with an equals sign between
them. Lines that are blank or begin with a mark of comment say nothing. A value may stand in
double quotes, which keeps the blanks around it. A line that is no setting is reported and has
no effect; of several settings for a key the last one counts.
-/

namespace TagTemplate

/-- What can be set. -/
inductive SettingsKey where
  /-- How names are compared. -/
  | identifiers
  /-- How texts are compared. -/
  | strings
  /-- The text of undefined values. -/
  | undefined
  /-- Whether runs of blanks are collapsed. -/
  | collapseWhitespace
  /-- Whether directives that fail are passed over. -/
  | ignoreErrors
  /-- Whether names must resolve. -/
  | strictIdentifiers
  /-- Whether members must exist. -/
  | strictMembers
  /-- The delimiter that opens tags. -/
  | tagStart
  /-- The delimiter that closes tags. -/
  | tagEnd
  deriving DecidableEq, Repr

namespace SettingsKey

/-- All keys. -/
def all : List SettingsKey :=
  [.identifiers, .strings, .undefined, .collapseWhitespace, .ignoreErrors, .strictIdentifiers,
    .strictMembers, .tagStart, .tagEnd]

/-- How a key is written. -/
def name : SettingsKey → String
  | .identifiers => "identifiers"
  | .strings => "strings"
  | .undefined => "undefined"
  | .collapseWhitespace => "collapse_whitespace"
  | .ignoreErrors => "ignore_errors"
  | .strictIdentifiers => "strict_identifiers"
  | .strictMembers => "strict_members"
  | .tagStart => "tag_start"
  | .tagEnd => "tag_end"

/-- The key that is written like this. -/
def ofName? (name : String) : Option SettingsKey := all.find? fun key => key.name = name

end SettingsKey

/-- Why a line is no setting. -/
inductive SettingsFault where
  /-- There is no equals sign. -/
  | notSetting (line : String)
  /-- There is no such key. -/
  | unknownKey (key : String)
  /-- The value is none of the modes of the key. -/
  | unknownMode (key : SettingsKey) (value : String)
  /-- The value is no boolean. -/
  | notBoolean (key : SettingsKey) (value : String)
  /-- The value is not one character. -/
  | notCharacter (key : SettingsKey) (value : String)
  deriving DecidableEq, Repr

/-- The wording of a fault. -/
def SettingsFault.message : SettingsFault → String
  | .notSetting line => "expected `key = value`, got `" ++ line ++ "`"
  | .unknownKey key => "unknown setting `" ++ key ++ "`"
  | .unknownMode key value => key.name ++ ": unknown mode `" ++ value ++ "`"
  | .notBoolean key value => key.name ++ ": expected a boolean, got `" ++ value ++ "`"
  | .notCharacter key value =>
    key.name ++ ": expected a single character, got `" ++ value ++ "`"

/-- A line that is no setting. -/
structure SettingsError where
  /-- The number of the line, from one on. -/
  line : Nat
  /-- What is wrong with it. -/
  fault : SettingsFault
  deriving DecidableEq, Repr

/-- The wording of an error. -/
def SettingsError.message (e : SettingsError) : String :=
  s!"line {e.line}: " ++ e.fault.message

/-- The settings of a dialect and of its evaluations. -/
structure Settings where
  /-- How names are compared. -/
  nameCase : NameCase
  /-- How texts are compared. -/
  collation : Collation
  /-- The text of undefined values. -/
  undefinedText : String
  /-- Whether runs of blanks are collapsed. -/
  collapsesBlanks : Bool
  /-- The delimiter that opens tags. -/
  opening : Char
  /-- The delimiter that closes tags. -/
  closing : Char
  /-- How errors are treated. -/
  options : EvalOptions
  deriving DecidableEq, Repr

namespace Settings

/-- What holds when nothing is set. -/
def default : Settings where
  nameCase := .insensitive
  collation := .ordinal
  undefinedText := "undefined"
  collapsesBlanks := false
  opening := '\x7b'
  closing := '\x7d'
  options := .lenient

/-- The boolean that a value writes, in letters of any case. -/
def readBool (key : SettingsKey) (value : String) : Except SettingsFault Bool :=
  let word := String.ofList (value.toList.map Char.toLower)
  if word = "true" ∨ word = "yes" ∨ word = "on" ∨ word = "1" then .ok true
  else if word = "false" ∨ word = "no" ∨ word = "off" ∨ word = "0" then .ok false
  else .error (.notBoolean key value)

/-- The one character that a value consists of. -/
def readChar (key : SettingsKey) (value : String) : Except SettingsFault Char :=
  match value.toList with
  | [c] => .ok c
  | _ => .error (.notCharacter key value)

/-- The mode of comparing names that a value writes. -/
def readNameCase (value : String) : Except SettingsFault NameCase :=
  if value = "sensitive" then .ok .sensitive
  else if value = "insensitive" then .ok .insensitive
  else .error (.unknownMode .identifiers value)

/-- The mode of comparing texts that a value writes. -/
def readCollation (value : String) : Except SettingsFault Collation :=
  if value = "ordinal" then .ok .ordinal
  else if value = "ignore-case" then .ok .ignoreCase
  else .error (.unknownMode .strings value)

/-- Makes one setting. -/
def set (s : Settings) (key : SettingsKey) (value : String) : Except SettingsFault Settings :=
  match key with
  | .identifiers => (readNameCase value).map fun nameCase => { s with nameCase }
  | .strings => (readCollation value).map fun collation => { s with collation }
  | .undefined => .ok { s with undefinedText := value }
  | .collapseWhitespace =>
    (readBool key value).map fun collapsesBlanks => { s with collapsesBlanks }
  | .ignoreErrors =>
    (readBool key value).map fun on => { s with options.ignoresErrors := on }
  | .strictIdentifiers =>
    (readBool key value).map fun on => { s with options.strictNames := on }
  | .strictMembers =>
    (readBool key value).map fun on => { s with options.strictMembers := on }
  | .tagStart => (readChar key value).map fun opening => { s with opening }
  | .tagEnd => (readChar key value).map fun closing => { s with closing }

/-- A value without the double quotes around it, if it has both. -/
def unquote (cs : List Char) : List Char :=
  match cs with
  | '"' :: rest => if rest.getLast? = some '"' then rest.dropLast else cs
  | _ => cs

/-- Whether a trimmed line says nothing. -/
def saysNothing : List Char → Bool
  | [] => true
  | c :: _ => c == '#' || c == ';'

/-- Applies a line. -/
def applyLine (s : Settings) (line : List Char) : Except SettingsFault Settings :=
  let body := Text.trimmed line
  if saysNothing body then .ok s
  else
    match Text.cutAt '=' body with
    | none => .error (.notSetting (String.ofList body))
    | some (before, after) =>
      let key := String.ofList (Text.trimmed before)
      match SettingsKey.ofName? key with
      | none => .error (.unknownKey key)
      | some key => s.set key (String.ofList (unquote (Text.trimmed after)))

/-- Applies lines, of which the first has the number `n`, and collects the errors. -/
def applyLines (s : Settings) (n : Nat) : List (List Char) → Settings × List SettingsError
  | [] => (s, [])
  | line :: rest =>
    match s.applyLine line with
    | .ok next => applyLines next (n + 1) rest
    | .error fault =>
      let (last, errors) := applyLines s (n + 1) rest
      (last, ⟨n, fault⟩ :: errors)

/-- The settings in a text, and the lines of it that are none. -/
def load (text : String) : Settings × List SettingsError :=
  default.applyLines 1 (Text.lines text.toList)

/-- The dialect with these settings: the standard operators and directives. -/
def dialect (s : Settings) : Except DialectError Dialect :=
  Dialect.ofSettings "stencil"
    [.nameCase s.nameCase, .collation s.collation, .undefinedText s.undefinedText,
      .delimiters ⟨s.opening, s.closing⟩, .collapse s.collapsesBlanks, .standardOperators,
      .standardDirectives]

end Settings

end TagTemplate
