import TagTemplate.Directive.Effort
import TagTemplate.Expr.Eval
import TagTemplate.Forest
import TagTemplate.Output

/-!
# Rendering

A forest is evaluated node by node into an output. A directive is driven from tag to tag until
it ends, in a frame of its own if it has several tags; the frame is closed whatever happens.
Before each text and each activation the cancellation flag is looked at. A failure inside a
directive is passed over or wrapped with the place of the innermost directive, as the options
say; a cancellation and a refused text go straight up.
-/

namespace TagTemplate

/-- The state of a rendering. -/
structure Run where
  /-- The context. -/
  context : Context
  /-- What the host remembers. -/
  host : Host
  /-- The output. -/
  output : Output

/-- A part of a rendering. What it did before a failure is kept. -/
abbrev Rendering := Run → Except EvalError Unit × Run

namespace Run

/-- Whether the evaluation is cancelled. -/
def isCancelled (r : Run) : Bool := r.context.isCancelled r.host

/-- Writes a text, unless the evaluation is cancelled or the output refuses it. -/
def put (s : String) : Rendering := fun r =>
  if r.isCancelled then (.error .cancelled, r)
  else if r.output.fits s then (.ok (), { r with output := r.output.append s })
  else (.error .write, r)

/-- Writes the text of an activation, if there is one. -/
def putAny : Option String → Rendering
  | none => fun r => (.ok (), r)
  | some s => put s

/-- Writes text of the template. Its blanks are collapsed if the dialect says so, unless the
frame is marked to keep them. -/
def putText (s : String) : Rendering := fun r =>
  if r.context.dialect.collapsesBlanks && !r.context.hasMark preformattedMark then
    put (Text.collapseBlanks s) r
  else put s r

/-- The run after an activation. -/
def afterStage (r : Run) (stage : Stage) : Run :=
  { r with context := stage.context, host := stage.host }

/-- Opens a frame. -/
def openFrame (r : Run) : Run := { r with context := r.context.openFrame }

/-- Closes the top frame. -/
def closeFrame (r : Run) : Run := { r with context := r.context.closeFrame }

end Run

namespace TagPart

/-- The values of a tag's slots: names as they are, expressions evaluated from left to right. -/
def values (c : Context) : List TagPart → Eval (List Value)
  | [] => pure []
  | .keyword _ :: rest => values c rest
  | .name word :: rest => return .text word :: (← values c rest)
  | .expression e :: rest => do
    let v ← e.eval c
    return v :: (← values c rest)

end TagPart

namespace Directive

/-- Drives a directive from the tag at `index` until it ends. `bodies` are the renderings of the
contents between its tags. -/
def drive (d : Directive) (tags : List LexedTag) (bodies : List Rendering)
    (state : DirectiveState) (index : Nat) (r : Run) : Except EvalError Unit × Run :=
  match _ht : tags[index]? with
  | none => (.ok (), r)
  | some tag =>
    if r.isCancelled then (.error .cancelled, r)
    else
      match (TagPart.values r.context tag.parts).run.run r.host with
      | (.error error, host) => (.error error, { r with host })
      | (.ok components, host) =>
        match _he : d.execute index components ⟨state, r.context, host⟩ with
        | (.error error, stage) => (.error error, r.afterStage stage)
        | (.ok activation, stage) =>
          match Run.putAny activation.emit (r.afterStage stage) with
          | (.error error, r) => (.error error, r)
          | (.ok (), r) =>
            match _hf : activation.flow with
            | .terminate => (.ok (), r)
            | .restart => drive d tags bodies stage.state 0 r
            | .skip => drive d tags bodies stage.state (index + 1) r
            | .evaluate =>
              match bodies[index]? with
              | none => (.ok (), r)
              | some body =>
                match body r with
                | (.error error, r) => (.error error, r)
                | (.ok (), r) => drive d tags bodies stage.state (index + 1) r
  termination_by Effort.wellFounded_less.wrap (d.effort tags.length state index)
  decreasing_by
    · exact effort_restart (List.getElem?_eq_some_iff.1 _ht).1 _he _hf
    · exact effort_next (List.getElem?_eq_some_iff.1 _ht).1 _he (.inr _hf)
    · exact effort_next (List.getElem?_eq_some_iff.1 _ht).1 _he (.inl _hf)

/-- What the result of a directive means to what is around it. -/
def settle (d : Directive) (position : Nat) (options : EvalOptions) :
    Except EvalError Unit → Except EvalError Unit
  | .ok () => .ok ()
  | .error .cancelled => .error .cancelled
  | .error .write => .error .write
  | .error error =>
    if options.ignoresErrors then .ok ()
    else
      match error with
      | .directive name place source => .error (.directive name place source)
      | source => .error (.directive d.name position source)

/-- Runs an instance of a directive, in a frame of its own if it has several tags. -/
def render (d : Directive) (position : Nat) (tags : List LexedTag) (bodies : List Rendering) :
    Rendering := fun r =>
  if 1 < tags.length then
    let (result, ended) := d.drive tags bodies .initial 0 r.openFrame
    (d.settle position ended.context.options result, ended.closeFrame)
  else
    let (result, ended) := d.drive tags bodies .initial 0 r
    (d.settle position ended.context.options result, ended)

end Directive

namespace Node

mutual

/-- Renders a node. -/
def render : Node → Rendering
  | .text s _ => Run.putText s
  | .directive d position tags bodies => d.render position tags (renderBodies bodies)
termination_by structural node => node

/-- Renders nodes in turn, up to the first failure. -/
def renderAll : List Node → Rendering
  | [] => fun r => (.ok (), r)
  | node :: rest => fun r =>
    match render node r with
    | (.error error, r) => (.error error, r)
    | (.ok (), r) => renderAll rest r
termination_by structural nodes => nodes

/-- The renderings of contents. -/
def renderBodies : List (List Node) → List Rendering
  | [] => []
  | body :: rest => renderAll body :: renderBodies rest
termination_by structural bodies => bodies

end

end Node

end TagTemplate
