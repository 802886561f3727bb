import ApiBindings.Log
import ApiBindings.Rendering.BuiltIn
import ApiBindings.Rendering.Context
import ApiBindings.Template.Evaluation

/-!
Bindings as text. Each mode has a template that it starts from and others that this one embeds; all
of them are read before any is run.
-/

namespace ApiBindings

inductive RenderError
  | missingTemplate (name : String)
  | template (e : Template.TemplateError)
  deriving DecidableEq

def missingTemplateMessage (name : String) : String :=
  "custom output mode requires a `" ++ name ++ "` template"

namespace Rendering

/-- The templates of a mode by name, the one that it starts from first. -/
def sources (mode : Mode) (overrides : TemplateSet) :
    Except RenderError (String × List (String × String)) :=
  let pick (own : TemplateSet → Option String) : String :=
    ((own overrides).or (own builtIn)).getD ""
  let demand (name : String) (own : Option String) : Except RenderError String :=
    match own with
    | some text => .ok text
    | none => .error (.missingTemplate name)
  let type := ("type", pick (·.type))
  match mode with
  | .client => .ok ("class", [("class", pick (·.client)), ("method", pick (·.method)), type])
  | .types => .ok ("types_wrapper", [("types_wrapper", pick (·.typesWrapper)), type])
  | .classWrapper =>
    .ok ("class_wrapper",
      [("class_wrapper", pick (·.classWrapper)), ("method", pick (·.method)), type])
  | .custom => do
    let main ← demand "class" overrides.client
    let method ← demand "method" overrides.method
    return ("class", [("class", main), ("method", method), type])

def library (templates : List (String × String)) :
    Except Template.TemplateError Template.Library :=
  templates.mapM fun (name, text) => do return (name, ← Template.parse text)

end Rendering

def Bindings.render (b : Bindings) (mode : Mode) (overrides : TemplateSet)
    (extra : OrderedMap String Json) : Traced RenderError String := do
  let (entry, templates) ← Traced.ofExcept (Rendering.sources mode overrides)
  for key in extra.keys do
    Traced.note .debug ("extra context key `" ++ key ++ "`")
  Traced.note .debug
    ("rendering " ++ toString b.methods.length ++ " methods in " ++ mode.label ++ " mode")
  if mode = .custom then
    Traced.note .debug "rendering with user-supplied class and method templates"
  Traced.ofExcept (Except.mapError .template do
    let library ← Rendering.library (("request", Rendering.request) :: templates)
    library.render entry (Rendering.context b extra.entries))

end ApiBindings
