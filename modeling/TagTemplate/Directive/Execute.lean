import TagTemplate.Context

/-!
# Activation of a tag

What a directive does when a tag of it is activated: it looks at the tag's components, that is
the names and the values of its slots, at what it remembers and at the context, and answers with
a text to write and the way to go. Standard directives change nothing when they fail. A script
keeps the changes that it made before it failed. While a directive goes on, what it has left to
do grows smaller; `effort` measures that.
-/

namespace TagTemplate

/-- The answer to an activation. -/
structure Activation where
  /-- Where to go. -/
  flow : Flow
  /-- The text to write, if there is one. -/
  emit : Option String
  deriving DecidableEq, Repr

/-- What an activation changes: what the directive remembers, the context and the host. -/
structure Stage where
  /-- What the directive remembers. -/
  state : DirectiveState
  /-- The context. -/
  context : Context
  /-- The host. -/
  host : Host

/-- The component at `i`. -/
def componentAt (components : List Value) (i : Nat) : Except EvalError Value :=
  match components[i]? with
  | some v => .ok v
  | none => .error (.failed s!"missing tag component {i}")

/-- The name in the slot at `i`. -/
def identifierAt (components : List Value) (i : Nat) : Except EvalError String :=
  match componentAt components i with
  | .error error => .error error
  | .ok (.text name) => .ok name
  | .ok other =>
    .error (.failed s!"tag component {i} is a {other.kind.name}, not an identifier")

/-- What the execution of a standard directive gives: an answer, what it then remembers, and the
context. -/
abbrev StandardResult := Except EvalError (Activation × DirectiveState × Context)

namespace StandardDirective

/-- An answer without a text, with nothing changed but what is remembered. -/
def go (flow : Flow) (state : DirectiveState) (c : Context) : StandardResult :=
  .ok (⟨flow, none⟩, state, c)

/-- The failure of a directive at a tag that it does not have. -/
def noTag (d : StandardDirective) (tag : Nat) : StandardResult :=
  .error (.failed (d.name ++ s!" has no tag {tag}"))

/-- The loop that a directive is in, begun at its first activation; none when there is nothing
to go through. -/
def loopOf (components : List Value) :
    DirectiveState → Except EvalError (Option (String × Cursor Value))
  | .initial => do
    let name ← identifierAt components 0
    let source ← componentAt components 1
    return source.toSequence?.map fun items => (name, .start items)
  | .loop name items => .ok (some (name, items))
  | _ => .error (.failed "loop state lost")

/-- Binds the next item and evaluates the content, or ends when no item is left. -/
def nextItem (components : List Value) (state : DirectiveState) (c : Context) :
    StandardResult :=
  match loopOf components state with
  | .error error => .error error
  | .ok none => go .terminate state c
  | .ok (some (name, items)) =>
    match items.next? Value.ofInt with
    | some (item, rest) => go .evaluate (.loop name rest) (c.setVariable name item)
    | none => go .terminate (.loop name items) c

/-- The number of times that are left, at the first tag of a repetition. -/
def timesLeft (components : List Value) (state : DirectiveState) :
    Except EvalError DirectiveState :=
  match state with
  | .initial => do
    let count ← componentAt components 0
    return .countdown count.toInt32.toInt
  | other => .ok other

/-- Evaluates the content once more, if it is still due. -/
def repeatOnce (components : List Value) (state : DirectiveState) (c : Context) :
    StandardResult :=
  match timesLeft components state with
  | .error error => .error error
  | .ok (.countdown left) =>
    if 0 < left then go .evaluate (.countdown (left - 1)) c
    else go .terminate (.countdown left) c
  | .ok other => go .terminate other c

/-- Executes a standard directive at a tag. -/
def execute (d : StandardDirective) (tag : Nat) (components : List Value)
    (state : DirectiveState) (c : Context) : StandardResult :=
  match d, tag with
  | .interpolation, _ => do
    let value ← componentAt components 0
    return (⟨.terminate, some (c.dialect.coercion.text value)⟩, state, c)
  | .conditionalInterpolation, _ => do
    let value ← componentAt components 0
    let condition ← componentAt components 1
    let emit := if condition.toBool then some (c.dialect.coercion.text value) else none
    return (⟨.terminate, emit⟩, state, c)
  | .conditional, 0 => do
    let condition ← componentAt components 0
    go (if condition.toBool then .evaluate else .terminate) state c
  | .conditional, 1 => go .terminate state c
  | .alternative, 0 => do
    let condition ← componentAt components 0
    let taken := condition.toBool
    go (if taken then .evaluate else .skip) (.branch taken) c
  | .alternative, 1 =>
    match state with
    | .branch false => go .evaluate state c
    | _ => go .terminate state c
  | .alternative, 2 => go .terminate state c
  | .forEach, 0 => nextItem components state c
  | .forEach, 1 => go .restart state c
  | .separatedForEach, 0 => nextItem components state c
  | .separatedForEach, 1 =>
    match state with
    | .loop _ items => go (if items.hasNext then .evaluate else .terminate) state c
    | _ => go .terminate state c
  | .separatedForEach, 2 => go .restart state c
  | .repetition, 0 => repeatOnce components state c
  | .repetition, 1 => go .restart state c
  | .preformatted, 0 => go .evaluate state (c.addMark preformattedMark)
  | .preformatted, 1 => go .terminate state c
  | .assignment, _ => do
    let name ← identifierAt components 0
    let value ← componentAt components 1
    go .terminate state (c.setVariable name value)
  | d, tag => noTag d tag

end StandardDirective

namespace Script

/-- The steps that are left to a script; none when it finds what is not its own. -/
def stepsLeft (s : Script) : DirectiveState → Option (List (List ScriptStep))
  | .initial => some s.steps
  | .script left => some left
  | _ => none

/-- The next step of a tag, and the steps that are left after it. -/
def takeStep : Nat → List (List ScriptStep) → Option (ScriptStep × List (List ScriptStep))
  | _, [] => none
  | 0, [] :: _ => none
  | 0, (step :: steps) :: rest => some (step, steps :: rest)
  | tag + 1, steps :: rest =>
    (takeStep tag rest).map fun (step, left) => (step, steps :: left)

/-- The number of steps that are left. -/
def stepCount (left : List (List ScriptStep)) : Nat :=
  left.foldr (fun steps n => steps.length + n) 0

/-- The text that a step writes. -/
def emission (c : Coercion) (components : List Value) :
    Emission → Except EvalError (Option String)
  | .nothing => .ok none
  | .text s => .ok (some s)
  | .component i => (componentAt components i).map fun v => some (c.text v)
  | .identifier i => (identifierAt components i).map some

/-- What a step changes in the context. -/
def change (step : ScriptStep) (c : Context) : Context :=
  let bound := match step.set with
    | some (name, value) => c.setVariable name value
    | none => c
  let marked := match step.addMark with
    | some mark => bound.addMark mark
    | none => bound
  match step.removeMark with
  | some mark => marked.removeMark mark
  | none => marked

/-- Carries a step out in a context that it has changed. -/
def answer (step : ScriptStep) (components : List Value) (c : Context) :
    Except EvalError Activation :=
  match step.fails with
  | some message => .error (.failed message)
  | none =>
    (emission c.dialect.coercion components step.emit).map fun emit => ⟨step.flow, emit⟩

/-- Executes a script at a tag. -/
def execute (s : Script) (tag : Nat) (components : List Value) (stage : Stage) :
    Except EvalError Activation × Stage :=
  match s.stepsLeft stage.state with
  | none => (.error (.failed "foreign state"), stage)
  | some left =>
    match takeStep tag left with
    | none => (.ok ⟨.terminate, none⟩, { stage with state := .script left })
    | some (step, rest) =>
      let context := change step stage.context
      let host := if step.cancels then stage.host.raiseFlag context.flag else stage.host
      (answer step components context, ⟨.script rest, context, host⟩)

end Script

namespace Directive

/-- Executes a directive at a tag. -/
def execute (d : Directive) (tag : Nat) (components : List Value) (stage : Stage) :
    Except EvalError Activation × Stage :=
  match d with
  | .standard d =>
    match d.execute tag components stage.state stage.context with
    | .error error => (.error error, stage)
    | .ok (activation, state, context) => (.ok activation, { stage with state, context })
  | .scripted s => s.execute tag components stage

end Directive

end TagTemplate
