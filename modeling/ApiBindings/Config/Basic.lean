import ApiBindings.Files.Path
import ApiBindings.Options
import ApiBindings.Reading.Buffered
import ApiBindings.Yaml.Source

/-!
The configuration of a project, kept in a YAML file. What the file does not mention has a default.
-/

namespace ApiBindings

/-- What is rendered: everything, the types, the methods, or templates of one's own. -/
inductive Mode
  | client
  | types
  | classWrapper
  | custom
  deriving DecidableEq

namespace Mode

def all : List Mode := [client, types, classWrapper, custom]

def name : Mode → String
  | client => "client"
  | types => "types"
  | classWrapper => "class_wrapper"
  | custom => "custom"

def label : Mode → String
  | client => "Client"
  | types => "Types"
  | classWrapper => "ClassWrapper"
  | custom => "Custom"

def ofName? (s : String) : Option Mode := all.find? (·.name = s)

end Mode

/-- Something for each template that can be replaced: its file or its text. -/
structure TemplateSet where
  client : Option String := none
  method : Option String := none
  type : Option String := none
  typesWrapper : Option String := none
  classWrapper : Option String := none
  deriving DecidableEq

namespace TemplateSet

variable {m : Type → Type} [Monad m]

/-- Replaces what there is for each template, in the order of the fields. -/
def traverse (f : String → m String) (t : TemplateSet) : m TemplateSet := do
  return {
    client := ← t.client.mapM f
    method := ← t.method.mapM f
    type := ← t.type.mapM f
    typesWrapper := ← t.typesWrapper.mapM f
    classWrapper := ← t.classWrapper.mapM f }

def relativeTo (t : TemplateSet) (dir : String) : TemplateSet :=
  Id.run (t.traverse fun path => pure (Path.join dir path))

end TemplateSet

structure RenderConfig where
  mode : Mode := .client
  templates : TemplateSet := {}
  extraContext : OrderedMap String Json := ∅

structure Config where
  input : String := "swagger.yaml"
  output : String := "src/api/client.ts"
  options : Options := {}
  render : RenderConfig := {}

namespace Reading

open Source

variable {ν : Type} [Source ν]

def options : ν → Read Options :=
  record {}
    [.may "class_name" text fun o x => { o with className := x },
      .may "module_name" text fun o x => { o with moduleName := x },
      .may "generate_for_path" (optional text) fun o x => { o with pathFilter := x },
      .may "is_es6" flag fun o x => { o with isEs6 := x },
      .may "imports" (list text) fun o x => { o with imports := x },
      .may "default_response_type" text fun o x => { o with defaultResponseType := x }]

def templateSet : ν → Read TemplateSet :=
  record {}
    [.may "class" (optional text) fun t x => { t with client := x },
      .may "method" (optional text) fun t x => { t with method := x },
      .may "type" (optional text) fun t x => { t with type := x },
      .may "types_wrapper" (optional text) fun t x => { t with typesWrapper := x },
      .may "class_wrapper" (optional text) fun t x => { t with classWrapper := x }]

def renderConfig : ν → Read RenderConfig :=
  record {}
    [.may "mode" (choose Mode.ofName?) fun r x => { r with mode := x },
      .may "templates" templateSet fun r x => { r with templates := x },
      .may "extra_context" (table json) fun r x => { r with extraContext := x }]

def config : ν → Read Config :=
  record {}
    [.may "input" text fun c x => { c with input := x },
      .may "output" text fun c x => { c with output := x },
      .may "options" options fun c x => { c with options := x },
      .may "render" renderConfig fun c x => { c with render := x }]

end Reading

namespace Options

def ofJson? (j : Json) : Option Options :=
  (Reading.Read.run (Reading.options j.toDatum)).result.toOption

end Options

namespace Config

def fileName : String := ".stg.yaml"

def ofText? (text : String) : Option Config :=
  (Yaml.decode Reading.config text).run.result.toOption

def defaultText : String :=
  "# stg configuration\n" ++
  "input: swagger.yaml\n" ++
  "output: src/api/client.ts\n" ++
  "\n" ++
  "options:\n" ++
  "  class_name: Api\n" ++
  "  module_name: api\n" ++
  "  # generate_for_path: pets     # keep only operations under /pets\n" ++
  "  is_es6: true\n" ++
  "  imports: []\n" ++
  "  default_response_type: void\n" ++
  "\n" ++
  "render:\n" ++
  "  mode: client          # client | types | class_wrapper | custom\n" ++
  "  templates: \x7b\x7d\n" ++
  "    # class: templates/class.j2\n" ++
  "    # method: templates/method.j2\n" ++
  "  extra_context: \x7b\x7d\n"

end Config

end ApiBindings
