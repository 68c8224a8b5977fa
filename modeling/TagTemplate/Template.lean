import TagTemplate.Rendering

/-!
# Templates

A template is a dialect and the forest that a text has in it. Everything that can be wrong with
the text shows when the template is compiled; rendering can fail only for reasons that lie in
the values it meets.
-/

namespace TagTemplate

/-- A compiled template. -/
structure Template where
  /-- The dialect. -/
  dialect : Dialect
  /-- The text and the directives. -/
  forest : Forest

namespace Template

/-- Compiles a text. -/
def compile (dialect : Dialect) (source : String) : Except TemplateError Template :=
  match Token.tokenize dialect.delimiters source with
  | .error error => .error (.parse error)
  | .ok tokens =>
    (Forest.ofUnits dialect (Lex.ofTokens dialect tokens)).map fun forest => ⟨dialect, forest⟩

/-- Evaluates a template into the output of a run. -/
def evaluate (t : Template) (r : Run) : Except TemplateError Unit × Run :=
  match Node.renderAll t.forest r with
  | (.ok (), r) => (.ok (), r)
  | (.error error, r) => (.error (.ofEval error), r)

/-- Renders a template to a text; the context and the host are given back with it. -/
def render (t : Template) (context : Context) (host : Host) :
    Except TemplateError String × Context × Host :=
  let (result, r) := t.evaluate ⟨context, host, .unlimited⟩
  (result.map fun () => r.output.written, r.context, r.host)

end Template

end TagTemplate
