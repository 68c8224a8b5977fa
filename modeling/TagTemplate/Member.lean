import TagTemplate.Coercion
import TagTemplate.Host

/-!
# Members

What a value answers when a member is read, a method is invoked or an item is asked for. "No
such member" is an answer of its own; the context decides whether it is an error. A failure
means that the member is there but cannot answer. Texts and sequences have a few members of
their own.
-/

namespace TagTemplate

/-- Why a member that exists does not answer. -/
inductive MemberFault where
  /-- The method `has` was not given the name of a member. -/
  | nameExpected
  /-- The host object says why. -/
  | host (message : String)
  deriving DecidableEq, Repr

/-- The wording of a fault. -/
def MemberFault.message : MemberFault → String
  | .nameExpected => "has() expects a member name"
  | .host message => message

/-- The answer to a question about a member: a value, nothing, or a fault. -/
abbrev MemberAnswer := Except MemberFault (Option Value)

namespace Object

/-- Reads a member. A host object looks among its failing members first. -/
def read (nameCase : NameCase) (name : String) : Object → MemberAnswer
  | .record _ fields => .ok (Record.find? nameCase name fields)
  | .host _ _ fields failing _ =>
    match Record.find? nameCase name failing with
    | some message => .error (.host message)
    | none => .ok (Record.find? nameCase name fields)

/-- Whether a record has the member that the first argument names. -/
def answerHas (nameCase : NameCase) (fields : Record Value) : List Value → MemberAnswer
  | .text name :: _ => .ok (some (.bool (Record.find? nameCase name fields).isSome))
  | _ => .error .nameExpected

/-- Invokes a method of a record: `has`, and no other. -/
def invokeRecord (nameCase : NameCase) (fields : Record Value) (name : String)
    (args : List Value) : MemberAnswer :=
  if nameCase.same name "has" then answerHas nameCase fields args else .ok none

end Object

namespace Method

/-- Carries a method out. -/
def run (args : List Value) (host : Host) : Method → MemberAnswer × Host
  | .give value => (.ok (some value), host)
  | .fail message => (.error (.host message), host)
  | .count counter limit flag =>
    let counted := host.increment counter
    let n := counted.count counter
    let isDue := match limit with
      | some k => decide (k ≤ n)
      | none => false
    (.ok (some (.number (.ofNat n))), if isDue then counted.raiseFlag flag else counted)
  | .arguments => (.ok (some (.list args)), host)

end Method

namespace Object

/-- Invokes a method. -/
def invoke (nameCase : NameCase) (name : String) (args : List Value) (host : Host) :
    Object → MemberAnswer × Host
  | .record _ fields => (invokeRecord nameCase fields name args, host)
  | .host _ _ _ _ methods =>
    match Record.find? nameCase name methods with
    | some method => method.run args host
    | none => (.ok none, host)

end Object

/-- The position that a number stands for, if it is a whole number that is not negative. Larger
ones than the largest word stand for that one. -/
def positionOf (x : Number) : Option Nat :=
  if x.isIntegral && x.isNonnegative then some (x.saturated 0 (Int.pow 2 64 - 1)).toNat else none

namespace Value

/-- The result of a method of texts, if there is a method of this name. -/
def invokeText (nameCase : NameCase) (c : Coercion) (s : String) (name : String)
    (args : List Value) : Option Value :=
  if nameCase.same name "upper" then some (.text (Text.uppercase s))
  else if nameCase.same name "lower" then some (.text (Text.lowercase s))
  else if nameCase.same name "trim" then some (.text (Text.trim s))
  else if nameCase.same name "contains" then
    let needle := match args with
      | v :: _ => c.text v
      | [] => ""
    some (.bool (Text.occursIn needle.toList s.toList))
  else none

/-- The items of a sequence as text, with the text of the first argument between them. -/
def joinItems (c : Coercion) (s : Sequence Value) (args : List Value) : String :=
  let between := match args with
    | v :: _ => c.text v
    | [] => ""
  between.intercalate (c.itemTexts s)

/-- Reads a member of a value. -/
def readMember (nameCase : NameCase) (name : String) : Value → MemberAnswer
  | .text s => .ok (if nameCase.same name "length" then some (.number (.ofNat s.length)) else none)
  | .sequence s =>
    .ok (if nameCase.same name "length" then some (.number (.ofNat s.length)) else none)
  | .object o => o.read nameCase name
  | _ => .ok none

/-- Invokes a method of a value. -/
def invokeMember (nameCase : NameCase) (c : Coercion) (name : String) (args : List Value)
    (host : Host) : Value → MemberAnswer × Host
  | .text s => (.ok (invokeText nameCase c s name args), host)
  | .sequence s =>
    (.ok (if nameCase.same name "join" then some (.text (joinItems c s args)) else none), host)
  | .object o => o.invoke nameCase name args host
  | _ => (.ok none, host)

/-- The item of a value under a key: by position in texts and sequences, by name in objects. -/
def indexBy (nameCase : NameCase) (c : Coercion) (v key : Value) : MemberAnswer :=
  match v with
  | .sequence s =>
    .ok (match positionOf key.toNumber with
      | some i => s.value? i
      | none => none)
  | .text s =>
    .ok (match positionOf key.toNumber with
      | some i => s.toList[i]?.map fun c => .text (String.singleton c)
      | none => none)
  | .object o => o.read nameCase (c.text key)
  | _ => .ok none

end Value

end TagTemplate
