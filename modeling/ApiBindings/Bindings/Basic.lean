import ApiBindings.Document.Operation
import ApiBindings.TypeExpr

/-!
The bindings of an API: the methods and types that are generated for it, and the types that the
methods need.
-/

namespace ApiBindings

structure SecurityFlags where
  isSecure : Bool := false
  token : Bool := false
  apiKey : Bool := false
  basic : Bool := false
  deriving DecidableEq

/-- Adds the mechanisms of a method, which count if it is secure. -/
def SecurityFlags.absorb (flags method : SecurityFlags) : SecurityFlags :=
  if method.isSecure then
    { flags with
      token := flags.token || method.token
      apiKey := flags.apiKey || method.apiKey
      basic := flags.basic || method.basic }
  else flags

inductive ArgumentPlace
  | body
  | path
  | query
  | header
  | form
  | unrecognized
  deriving DecidableEq

/-- An argument of a method. `singleton` is its only legal value, `pattern` the pattern of its names
in the query. -/
structure Argument where
  name : String
  camelCaseName : String
  place : ArgumentPlace
  description : Option String
  required : Bool
  singleton : Option Json
  pattern : Option String
  type : TypeExpr

/-- A header that every request of a method has. -/
structure FixedHeader where
  name : String
  value : String
  deriving DecidableEq

structure Method where
  name : String
  verb : Verb
  path : String
  pathTemplate : String
  summary : Option String
  externalDocs : Option ExternalDocs
  tags : List String
  deprecated : Bool
  security : SecurityFlags
  arguments : List Argument
  headers : List FixedHeader
  responseType : String
  responseImport : Option String

structure TypeDeclaration where
  name : String
  description : Option String
  type : TypeExpr

structure BindingsInfo where
  description : Option String := none
  className : String := ""
  moduleName : String := ""
  isEs6 : Bool := false
  imports : List String := []
  domain : String := ""
  basePath : Option String := none
  isSecure : Bool := false
  deriving DecidableEq

structure Bindings where
  info : BindingsInfo
  security : SecurityFlags := {}
  methods : List Method := []
  definitions : List TypeDeclaration := []
  imports : List String := []

namespace Bindings

/-- Each type is imported once, in the order of first use; built-in types are not. -/
def addImport (imports : List String) (target : String) : List String :=
  let name := Naming.withoutContainers target
  if name = "" ∨ Naming.isBuiltinType name ∨ name ∈ imports then imports else imports ++ [name]

end Bindings

def Method.importTargets (m : Method) : List String :=
  m.arguments.filterMap (·.type.importTarget) ++ m.responseImport.toList

namespace Bindings

def hasMethod (b : Bindings) (name : String) : Bool := b.methods.any (·.name = name)

def addMethod (b : Bindings) (m : Method) : Bindings :=
  { b with
    security := b.security.absorb m.security
    methods := b.methods ++ [m]
    imports := m.importTargets.foldl addImport b.imports }

def addDefinition (b : Bindings) (d : TypeDeclaration) : Bindings :=
  { b with
    definitions := b.definitions ++ [d]
    imports := d.type.importTarget.toList.foldl addImport b.imports }

def importStatement (b : Bindings) : String :=
  "import \x7b " ++ ", ".intercalate b.imports ++ " \x7d from './types';"

end Bindings

end ApiBindings
