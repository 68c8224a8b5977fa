import TagTemplate.Dialect
import TagTemplate.Member

/-!
# Contexts

The variables of an evaluation live in frames. A directive with several tags opens a frame and
closes it when it ends. Writing goes to the top frame; reading looks through the frames from the
top and then asks the self object. Options say whether names and members that cannot be found
are errors, and whether directives may fail.
-/

namespace TagTemplate

/-- How errors are treated. -/
structure EvalOptions where
  /-- A directive that fails is passed over. Cancellation never is. -/
  ignoresErrors : Bool
  /-- A free name without a value is an error. -/
  strictNames : Bool
  /-- A member that does not exist is an error. -/
  strictMembers : Bool
  deriving DecidableEq, Repr

/-- Nothing is passed over and nothing must be found. -/
def EvalOptions.lenient : EvalOptions := ⟨false, false, false⟩

/-- The mark under which text is written as it is. -/
def preformattedMark : String := "preformatted"

/-- Variables, under the keys of their names, and marks. -/
structure Frame where
  /-- The variables. -/
  bindings : Record Value
  /-- The marks, each once. -/
  marks : List String

namespace Frame

/-- Nothing bound and nothing marked. -/
def empty : Frame := ⟨[], []⟩

/-- Binds a variable under its key. -/
def bind (f : Frame) (key : String) (value : Value) : Frame :=
  { f with bindings := f.bindings.insert key value }

/-- Whether a mark is on the frame. -/
def hasMark (f : Frame) (mark : String) : Bool := f.marks.contains mark

/-- Puts a mark on the frame. -/
def addMark (f : Frame) (mark : String) : Frame :=
  if f.hasMark mark then f else { f with marks := mark :: f.marks }

/-- Takes a mark off the frame. -/
def removeMark (f : Frame) (mark : String) : Frame :=
  { f with marks := f.marks.filter (· != mark) }

end Frame

/-- What an evaluation works in. There is always a frame. -/
structure Context where
  /-- The dialect. -/
  dialect : Dialect
  /-- The innermost frame. -/
  top : Frame
  /-- The frames around it, outwards. -/
  outer : List Frame
  /-- The object that is asked for names which no frame has. -/
  self? : Option Value
  /-- How errors are treated. -/
  options : EvalOptions
  /-- The flag that cancels the evaluation. -/
  flag : Nat

namespace Context

/-- One empty frame, no self object, lenient options. -/
def new (dialect : Dialect) (flag : Nat) : Context :=
  ⟨dialect, .empty, [], none, .lenient, flag⟩

/-- The number of frames. -/
def depth (c : Context) : Nat := c.outer.length + 1

/-- All frames, innermost first. -/
def frames (c : Context) : List Frame := c.top :: c.outer

/-- Opens a frame. -/
def openFrame (c : Context) : Context := { c with top := .empty, outer := c.top :: c.outer }

/-- Closes the top frame, if it is not the last one. -/
def closeFrame? (c : Context) : Option Context :=
  match c.outer with
  | [] => none
  | f :: rest => some { c with top := f, outer := rest }

/-- Closes the top frame; the last one stays. -/
def closeFrame (c : Context) : Context := c.closeFrame?.getD c

/-- Binds a variable in the top frame. -/
def setVariable (c : Context) (name : String) (value : Value) : Context :=
  { c with top := c.top.bind (c.dialect.nameCase.key name) value }

/-- Puts a mark on the top frame. -/
def addMark (c : Context) (mark : String) : Context := { c with top := c.top.addMark mark }

/-- Takes a mark off the top frame. -/
def removeMark (c : Context) (mark : String) : Context :=
  { c with top := c.top.removeMark mark }

/-- Whether a mark is on the top frame; the frames around it do not count. -/
def hasMark (c : Context) (mark : String) : Bool := c.top.hasMark mark

/-- Whether the evaluation is cancelled. -/
def isCancelled (c : Context) (host : Host) : Bool := host.isRaised c.flag

/-- The value that frames have under a key, the first one counting. -/
def lookupFrames (key : String) : List Frame → Option Value
  | [] => none
  | f :: rest =>
    match Record.get? key f.bindings with
    | some v => some v
    | none => lookupFrames key rest

/-- The value of a name, if it has one: from the frames, else from the self object. -/
def value? (c : Context) (name : String) : Except EvalError (Option Value) :=
  match lookupFrames (c.dialect.nameCase.key name) c.frames with
  | some v => .ok (some v)
  | none =>
    match c.self? with
    | none => .ok none
    | some self =>
      match self.readMember c.dialect.nameCase name with
      | .ok answer => .ok answer
      | .error fault => .error (.reflection name fault.message)

/-- The value of a member that does not exist. -/
def missingMember (c : Context) (member : String) : Except EvalError Value :=
  if c.options.strictMembers then .error (.unknownMember member) else .ok .undefined

/-- The value of a name that does not resolve. -/
def missingName (c : Context) (name : String) : Except EvalError Value :=
  if c.options.strictNames then .error (.undefinedIdentifier name) else .ok .undefined

/-- The value of a free name. -/
def resolve (c : Context) (name : String) : Except EvalError Value :=
  match c.value? name with
  | .error error => .error error
  | .ok (some v) => .ok v
  | .ok none => c.missingName name

/-- Whether a free name resolves. -/
def isDefined (c : Context) (name : String) : Bool :=
  match c.value? name with
  | .ok (some _) => true
  | _ => false

/-- The value of a member of `target`. -/
def member (c : Context) (target : Value) (name : String) : Except EvalError Value :=
  match target.readMember c.dialect.nameCase name with
  | .error fault => .error (.reflection name fault.message)
  | .ok (some v) => .ok v
  | .ok none => c.missingMember name

/-- The item of `target` under a key. One that is not there is undefined. -/
def index (c : Context) (target key : Value) : Except EvalError Value :=
  match target.indexBy c.dialect.nameCase c.dialect.coercion key with
  | .error fault => .error (.reflection key.literal fault.message)
  | .ok answer => .ok (answer.getD .undefined)

/-- What is made of the answer of a method; `missing` tells what no such method means. -/
def ofAnswer (name : String) (missing : Except EvalError Value) :
    MemberAnswer → Except EvalError Value
  | .error fault => .error (.reflection name fault.message)
  | .ok (some v) => .ok v
  | .ok none => missing

/-- Invokes a method of `target`, or of the self object if there is no target. -/
def invoke (c : Context) (target : Option Value) (name : String) (args : List Value)
    (host : Host) : Except EvalError Value × Host :=
  let call (v : Value) (missing : Except EvalError Value) : Except EvalError Value × Host :=
    let (answer, after) := v.invokeMember c.dialect.nameCase c.dialect.coercion name args host
    (ofAnswer name missing answer, after)
  match target, c.self? with
  | some v, _ => call v (c.missingMember name)
  | none, some self => call self (c.missingName name)
  | none, none => (c.missingName name, host)

end Context

end TagTemplate
