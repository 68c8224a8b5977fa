import TagTemplate.Value

/-!
# Directives

A directive spans one or more tags and is run as a state machine: for the tag that it stands on
it says what text to write and where to go next. The standard directives are a closed set. A
host adds its own as scripts, which list for each tag what its first, second and further
activations do.
-/

namespace TagTemplate

/-- Where a directive goes after the activation of a tag. -/
inductive Flow where
  /-- It ends. -/
  | terminate
  /-- It goes back to its first tag. -/
  | restart
  /-- The content after the tag is evaluated, and the next tag follows. -/
  | evaluate
  /-- The next tag follows at once. -/
  | skip
  deriving DecidableEq, Repr

/-- The standard directives. -/
inductive StandardDirective where
  /-- Writes the text of an expression. -/
  | interpolation
  /-- Writes the text of an expression if a condition holds. -/
  | conditionalInterpolation
  /-- Evaluates its content if a condition holds. -/
  | conditional
  /-- Evaluates one of two contents. -/
  | alternative
  /-- Evaluates its content for each item of a sequence. -/
  | forEach
  /-- Evaluates its content for each item, and a second content between items. -/
  | separatedForEach
  /-- Evaluates its content a number of times. -/
  | repetition
  /-- Evaluates its content with blanks kept as they are. -/
  | preformatted
  /-- Binds a variable. -/
  | assignment
  deriving DecidableEq, Repr

namespace StandardDirective

/-- The standard directives in the order in which a dialect registers them. -/
def all : List StandardDirective :=
  [.interpolation, .conditionalInterpolation, .conditional, .alternative, .forEach,
    .separatedForEach, .repetition, .preformatted, .assignment]

/-- The name of a directive. -/
def name : StandardDirective → String
  | .interpolation => "Interpolation"
  | .conditionalInterpolation => "ConditionalInterpolation"
  | .conditional => "If"
  | .alternative => "IfElse"
  | .forEach => "ForEach"
  | .separatedForEach => "SeparatedForEach"
  | .repetition => "Repeat"
  | .preformatted => "Preformatted"
  | .assignment => "Set"

/-- The markup of a directive's tags. -/
def tags : StandardDirective → List String
  | .interpolation => ["$"]
  | .conditionalInterpolation => ["$ IF $"]
  | .conditional => ["IF $ THEN", "END"]
  | .alternative => ["IF $ THEN", "ELSE", "END"]
  | .forEach => ["FOR EACH ? IN $", "END"]
  | .separatedForEach => ["FOR EACH ? IN $", "WITH", "END"]
  | .repetition => ["REPEAT $ TIMES", "END"]
  | .preformatted => ["PREFORMATTED", "END"]
  | .assignment => ["SET ? TO $"]

end StandardDirective

/-- What a step of a script writes. -/
inductive Emission where
  /-- Nothing. -/
  | nothing
  /-- This text. -/
  | text (s : String)
  /-- The text of a component of the tag. -/
  | component (i : Nat)
  /-- The name in a slot of the tag. -/
  | identifier (i : Nat)

/-- What one activation of a scripted tag does, in the order of the fields. -/
structure ScriptStep where
  /-- A variable to bind. -/
  set : Option (String × Value)
  /-- A mark to put on the frame. -/
  addMark : Option String
  /-- A mark to take off the frame. -/
  removeMark : Option String
  /-- Whether to cancel the evaluation. -/
  cancels : Bool
  /-- A message to fail with. -/
  fails : Option String
  /-- What to write. -/
  emit : Emission
  /-- Where to go. -/
  flow : Flow

/-- A directive given by its steps. An activation for which there is no step ends the
directive. -/
structure Script where
  /-- The name. -/
  name : String
  /-- The markup of the tags. -/
  tags : List String
  /-- For each tag, what its activations do, in order. -/
  steps : List (List ScriptStep)

/-- A directive. -/
inductive Directive where
  /-- One of the standard set. -/
  | standard (d : StandardDirective)
  /-- One of the host's. -/
  | scripted (s : Script)

namespace Directive

/-- The name of a directive. -/
def name : Directive → String
  | .standard d => d.name
  | .scripted s => s.name

/-- The markup of a directive's tags. -/
def tags : Directive → List String
  | .standard d => d.tags
  | .scripted s => s.tags

/-- The standard directives. -/
def allStandard : List Directive := StandardDirective.all.map .standard

end Directive

/-- What an instance of a directive remembers from one tag to the next. -/
inductive DirectiveState where
  /-- Nothing yet. -/
  | initial
  /-- Whether the first content was taken. -/
  | branch (taken : Bool)
  /-- The variable of a loop and the items that are left. -/
  | loop (name : String) (items : Cursor Value)
  /-- How many times are left. -/
  | countdown (left : Int)
  /-- The steps that are left, for each tag. -/
  | script (left : List (List ScriptStep))
  /-- Something that no directive of this library keeps. -/
  | foreign

/-- Whether nothing is remembered yet. -/
def DirectiveState.isInitial : DirectiveState → Bool
  | .initial => true
  | _ => false

end TagTemplate
