import TagTemplate.Text.Words

/-!
# Command lines

Letters after a dash are options, several of them in one argument if need be. Two of them take
an operand: what follows in the argument, or else the next argument whatever it looks like. Two
dashes end the options. Other arguments are paths, of which there may be one; a single dash
stands for the standard input.
-/

namespace TagTemplate

/-- Which settings file is read. -/
inductive SettingsChoice where
  /-- The first of the usual places that exists. -/
  | search
  /-- None. -/
  | skip
  /-- This one. -/
  | file (path : String)
  deriving DecidableEq, Repr

/-- Where the template comes from. -/
inductive TemplateSource where
  /-- The standard input. -/
  | stdin
  /-- A file. -/
  | file (path : String)
  deriving DecidableEq, Repr

/-- An option that takes an operand. -/
inductive OperandOption where
  /-- The settings file. -/
  | config
  /-- The definition of a name. -/
  | define
  deriving DecidableEq, Repr

/-- Why arguments are no command line. -/
inductive UsageError where
  /-- An operand is missing. -/
  | missingOperand (option : OperandOption)
  /-- A definition has no equals sign. -/
  | noEquals (definition : String)
  /-- A definition has no name. -/
  | emptyName (definition : String)
  /-- There is no such option. -/
  | unknownOption (letter : Char)
  /-- There is more than one path. -/
  | tooManyPaths (count : Nat)
  deriving DecidableEq, Repr

/-- The wording of an error. -/
def UsageError.message : UsageError → String
  | .missingOperand .config => "-c requires a file argument"
  | .missingOperand .define => "-D requires a name=value argument"
  | .noEquals definition => "-D" ++ definition ++ ": expected name=value"
  | .emptyName definition => "-D" ++ definition ++ ": empty name"
  | .unknownOption letter => "unknown option: -" ++ letter.toString
  | .tooManyPaths count => s!"too many arguments ({count})"

/-- A command line. -/
structure CommandLine where
  /-- Which settings file is read. -/
  config : SettingsChoice
  /-- Names and values that the template can use, in order. -/
  defines : List (String × String)
  /-- Whether directives that fail are passed over. -/
  ignoresErrors : Bool
  /-- Whether names must resolve. -/
  strict : Bool
  /-- Where the template comes from. -/
  template : TemplateSource
  deriving DecidableEq, Repr

namespace CommandLine

/-- The command line without arguments. -/
def empty : CommandLine := ⟨.search, [], false, false, .stdin⟩

/-- Gives an option its operand. -/
def giveOperand (l : CommandLine) (operand : String) :
    OperandOption → Except UsageError CommandLine
  | .config => .ok { l with config := .file operand }
  | .define =>
    match Text.cutAt '=' operand.toList with
    | none => .error (.noEquals operand)
    | some ([], _) => .error (.emptyName operand)
    | some (name, value) =>
      .ok { l with defines := l.defines ++ [(String.ofList name, String.ofList value)] }

/-- An option that takes an operand, with the letters after it as the operand if there are any;
else the option is left open. -/
def openOption (l : CommandLine) (option : OperandOption) (letters : List Char) :
    Except UsageError (CommandLine × Option OperandOption) :=
  if letters.isEmpty then .ok (l, some option)
  else (l.giveOperand (String.ofList letters) option).map fun l => (l, none)

/-- Takes the letters of an argument. An option may be left open that takes the next argument as
its operand. -/
def takeLetters (l : CommandLine) :
    List Char → Except UsageError (CommandLine × Option OperandOption)
  | [] => .ok (l, none)
  | letter :: rest =>
    if letter = 'i' then takeLetters { l with ignoresErrors := true } rest
    else if letter = 's' then takeLetters { l with strict := true } rest
    else if letter = 'n' then takeLetters { l with config := .skip } rest
    else if letter = 'c' then l.openOption .config rest
    else if letter = 'D' then l.openOption .define rest
    else .error (.unknownOption letter)

/-- Whether an argument consists of options. -/
def isLetters (arg : String) : Bool :=
  match arg.toList with
  | '-' :: _ :: _ => true
  | _ => false

/-- Takes arguments, and collects the paths after those that are collected. -/
def takeArguments (l : CommandLine) (paths : List String) :
    List String → Except UsageError (CommandLine × List String)
  | [] => .ok (l, paths)
  | arg :: rest =>
    if arg = "--" then .ok (l, paths ++ rest)
    else if !isLetters arg then takeArguments l (paths ++ [arg]) rest
    else
      match l.takeLetters (arg.toList.drop 1) with
      | .error error => .error error
      | .ok (l, none) => takeArguments l paths rest
      | .ok (l, some option) =>
        match rest with
        | [] => .error (.missingOperand option)
        | operand :: rest =>
          match l.giveOperand operand option with
          | .error error => .error error
          | .ok l => takeArguments l paths rest

/-- Says where the template comes from. -/
def withPaths (l : CommandLine) : List String → Except UsageError CommandLine
  | [] => .ok l
  | [path] => .ok (if path = "-" then l else { l with template := .file path })
  | paths => .error (.tooManyPaths paths.length)

/-- The command line that arguments write. -/
def parse (args : List String) : Except UsageError CommandLine :=
  match empty.takeArguments [] args with
  | .error error => .error error
  | .ok (l, paths) => l.withPaths paths

end CommandLine

end TagTemplate
