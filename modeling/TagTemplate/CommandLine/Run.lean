import TagTemplate.CommandLine
import TagTemplate.Settings
import TagTemplate.Template

/-!
# Running a command line

What a command line does with the files that it finds: it reads the settings, compiles the
template and renders it, with the definitions as the fields of the self object. Faults in the
settings are warnings; any other fault ends the run with a message and no output.
-/

namespace TagTemplate

/-- Why a file cannot be read. -/
inductive ReadFault where
  /-- There is no such file. -/
  | missing
  /-- It is a directory. -/
  | directory
  /-- Something that is no directory stands in the middle of the path. -/
  | notDirectory
  /-- The path or a name in it is longer than the system takes. -/
  | nameTooLong
  /-- The system says why. -/
  | other (message : String)
  deriving DecidableEq, Repr

/-- The wording of a fault. -/
def ReadFault.message : ReadFault → String
  | .missing => "No such file or directory (os error 2)"
  | .directory => "Is a directory (os error 21)"
  | .notDirectory => "Not a directory (os error 20)"
  | .nameTooLong => "File name too long (os error 36)"
  | .other message => message

/-- What surrounds a run. -/
structure Surroundings where
  /-- The directory of settings, if the user has one. -/
  settingsHome : Option String
  /-- The bytes of a file. -/
  look : String → Except ReadFault (List UInt8)
  /-- The bytes of the standard input. -/
  stdin : List UInt8

/-- What a run leaves. -/
structure Outcome where
  /-- The exit code. -/
  code : Nat
  /-- The standard output. -/
  stdout : String
  /-- The standard error output. -/
  stderr : String
  deriving DecidableEq, Repr

namespace Surroundings

/-- Whether there is anything at a path. -/
def exists? (s : Surroundings) (path : String) : Bool :=
  match s.look path with
  | .ok _ | .error .directory => true
  | .error _ => false

/-- The text of a file, or why it cannot be read. -/
def readText (s : Surroundings) (path : String) : Except String String :=
  match s.look path with
  | .error fault => .error fault.message
  | .ok bytes =>
    match Text.decodeUtf8 bytes with
    | .ok text => .ok text
    | .error _ => .error "stream did not contain valid UTF-8"

/-- The text of the standard input, or why it cannot be read. -/
def readStdin (s : Surroundings) : Except String String :=
  match Text.decodeUtf8 s.stdin with
  | .ok text => .ok text
  | .error fault => .error fault.message

end Surroundings

namespace CommandLine

/-- The usual places of a settings file, in the order in which they are tried. -/
def usualPlaces (settingsHome : Option String) : List String :=
  (settingsHome.map (· ++ "/stencil/stencil.conf")).toList ++ ["./.stencilrc"]

/-- The settings file of a command line, if it has one. -/
def settingsFile? (l : CommandLine) (s : Surroundings) : Option String :=
  match l.config with
  | .skip => none
  | .file path => some path
  | .search => (usualPlaces s.settingsHome).find? s.exists?

/-- A message on a line of its own. -/
def complaint (message : String) : String := "stencil: " ++ message ++ "\n"

/-- A warning about a settings file. -/
def warning (path message : String) : String :=
  complaint ("warning: " ++ path ++ ": " ++ message)

/-- The settings of a run and the warnings about them. -/
def loadSettings (l : CommandLine) (s : Surroundings) : Settings × String :=
  match l.settingsFile? s with
  | none => (.default, "")
  | some path =>
    match s.readText path with
    | .error message => (.default, warning path message)
    | .ok text =>
      let (settings, errors) := Settings.load text
      (settings, String.join (errors.map fun e => warning path e.message))

/-- The settings with what the options add. -/
def adjust (l : CommandLine) (settings : Settings) : Settings :=
  { settings with
    options.ignoresErrors := settings.options.ignoresErrors || l.ignoresErrors
    options.strictNames := settings.options.strictNames || l.strict }

/-- The value of a definition: a truth value or a finite number if it reads as one. -/
def definedValue (raw : String) : Value :=
  if raw = "true" then .bool true
  else if raw = "false" then .bool false
  else
    match Number.read raw with
    | some x => if x.isFinite then .number x else .text raw
    | none => .text raw

/-- The self object of a run. -/
def definitions (l : CommandLine) : Value :=
  .object (.record 0
    (Record.ofFields (l.defines.map fun (name, raw) => (name, definedValue raw))))

/-- The text that a template renders to. -/
def renderText (l : CommandLine) (dialect : Dialect) (options : EvalOptions) (source : String) :
    Except TemplateError String :=
  match Template.compile dialect source with
  | .error error => .error error
  | .ok template =>
    let context : Context := { Context.new dialect 0 with self? := some l.definitions, options }
    (template.render context .fresh).1

/-- Runs a command line. -/
def run (l : CommandLine) (s : Surroundings) : Outcome :=
  let (loaded, warnings) := l.loadSettings s
  let settings := l.adjust loaded
  let fail (message : String) : Outcome := ⟨1, "", warnings ++ complaint message⟩
  match settings.dialect with
  | .error error => fail error.message
  | .ok dialect =>
    let source := match l.template with
      | .stdin => s.readStdin
      | .file path => s.readText path
    match source with
    | .error message => fail message
    | .ok source =>
      match l.renderText dialect settings.options source with
      | .error error => fail error.message
      | .ok text => ⟨0, text, warnings⟩

/-- How the program is used. -/
def usage : String :=
  "Usage: stencil [-c<config>] [-n] [-D<name>=<value>]... [-i] [-s] <template|->\n"

/-- Runs arguments. -/
def runArguments (args : List String) (s : Surroundings) : Outcome :=
  match parse args with
  | .error error => ⟨2, "", complaint error.message ++ usage⟩
  | .ok l => l.run s

end CommandLine

end TagTemplate
