import TagTemplate.Lex

/-!
# Forests of directives

Tags that belong to one directive are gathered, with the content between them. A tag continues
the innermost open directive or starts a new one. Directives that share their first tags are
candidates side by side until a later tag tells them apart; a directive is settled as soon as it
is the only candidate whose tags are all there.
-/

namespace TagTemplate

/-- Text, or a directive with its tags and the contents between them; the content after a tag
has the position of that tag. -/
inductive Node where
  /-- Text. -/
  | text (s : String) (position : Nat)
  /-- A directive; there is one content fewer than there are tags. -/
  | directive (directive : Directive) (position : Nat) (tags : List LexedTag)
    (bodies : List (List Node))

/-- Text and directives, in order. -/
abbrev Forest := List Node

/-- The candidates whose tag after `matched` ones has this shape. -/
def accepting (nameCase : NameCase) (matched : Nat) (shape : TagShape)
    (candidates : List RegisteredDirective) : List RegisteredDirective :=
  candidates.filter fun candidate =>
    match candidate.shapes[matched]? with
    | some expected => expected.same nameCase shape
    | none => false

/-- The one candidate that has no tags after `matched` ones, if there is exactly one. -/
def settled (matched : Nat) (candidates : List RegisteredDirective) :
    Option RegisteredDirective :=
  match candidates.filter fun candidate => candidate.shapes.length == matched with
  | [only] => some only
  | _ => none

/-- A directive that is open. -/
structure OpenDirective where
  /-- The directives that it can become. -/
  candidates : List RegisteredDirective
  /-- Where its first tag opens. -/
  position : Nat
  /-- Its tags so far. -/
  tags : List LexedTag
  /-- The contents between them. -/
  bodies : List Forest
  /-- The content after the last tag, so far. -/
  body : Forest

namespace OpenDirective

/-- The names of the candidates. -/
def names (o : OpenDirective) : List String := o.candidates.map fun c => c.directive.name

/-- The candidates that a tag of this shape leaves. -/
def after (o : OpenDirective) (nameCase : NameCase) (shape : TagShape) :
    List RegisteredDirective :=
  accepting nameCase o.tags.length shape o.candidates

/-- The error of an open directive that cannot go on. -/
def unterminated (o : OpenDirective) : TemplateError :=
  .parse (.unterminatedDirective o.names o.position)

end OpenDirective

/-- A forest being built. -/
structure Growth where
  /-- The open directives, innermost first. -/
  stack : List OpenDirective
  /-- The finished part outside all of them. -/
  roots : Forest

namespace Growth

/-- Adds a node to the content of the innermost open directive. -/
def add (g : Growth) (node : Node) : Growth :=
  match g.stack with
  | [] => { g with roots := g.roots ++ [node] }
  | o :: outer => { g with stack := { o with body := o.body ++ [node] } :: outer }

/-- Opens a directive of which `candidates` remain after its first tag. -/
def openTag (g : Growth) (tag : LexedTag) (candidates : List RegisteredDirective) : Growth :=
  match settled 1 candidates with
  | some only => g.add (.directive only.directive tag.position [tag] [])
  | none => { g with stack := ⟨candidates, tag.position, [tag], [], []⟩ :: g.stack }

/-- Continues the innermost open directive `o`, of which `candidates` remain after the tag. -/
def continueTag (g : Growth) (o : OpenDirective) (outer : List OpenDirective) (tag : LexedTag)
    (candidates : List RegisteredDirective) : Growth :=
  let tags := o.tags ++ [tag]
  let bodies := o.bodies ++ [o.body]
  match settled tags.length candidates with
  | some only =>
    { g with stack := outer : Growth }.add (.directive only.directive o.position tags bodies)
  | none => { g with stack := { o with candidates, tags, bodies, body := [] } :: outer }

/-- Takes a tag. -/
def takeTag (d : Dialect) (g : Growth) (tag : LexedTag) : Except TemplateError Growth :=
  let starting := accepting d.nameCase 0 tag.shape d.directives
  match g.stack with
  | [] =>
    if starting.isEmpty then .error (.parse (.unmatchedTag tag.shape.markup tag.position))
    else .ok (g.openTag tag starting)
  | o :: outer =>
    let continuing := o.after d.nameCase tag.shape
    if !continuing.isEmpty then .ok (g.continueTag o outer tag continuing)
    else if outer.any fun p => !(p.after d.nameCase tag.shape).isEmpty then
      .error o.unterminated
    else if starting.isEmpty then
      .error (.parse (.unexpectedTag tag.shape.markup tag.position o.names))
    else .ok (g.openTag tag starting)

/-- Takes a unit. -/
def take (d : Dialect) (g : Growth) : Lex → Except TemplateError Growth
  | .text s position => .ok (g.add (.text s position))
  | .tag tag => takeTag d g tag

/-- Takes units up to the first error. -/
def takeAll (d : Dialect) (g : Growth) :
    List (Except TemplateError Lex) → Except TemplateError Growth
  | [] => .ok g
  | .error error :: _ => .error error
  | .ok unit :: rest =>
    match g.take d unit with
    | .error error => .error error
    | .ok next => takeAll d next rest

/-- The forest, if no directive is open. -/
def finish (g : Growth) : Except TemplateError Forest :=
  match g.stack with
  | [] => .ok g.roots
  | o :: _ => .error o.unterminated

end Growth

/-- The forest that units form. -/
def Forest.ofUnits (d : Dialect) (units : List (Except TemplateError Lex)) :
    Except TemplateError Forest :=
  match Growth.takeAll d ⟨[], []⟩ units with
  | .error error => .error error
  | .ok g => g.finish

end TagTemplate
