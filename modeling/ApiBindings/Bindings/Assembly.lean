import ApiBindings.Bindings.Security
import ApiBindings.Conversion
import ApiBindings.Document.Reader
import ApiBindings.Options

/-!
Bindings of a whole document: its operations path by path and then its definitions, all in their
order. The first failure ends the assembly; a response that cannot be converted is no failure.
-/

namespace ApiBindings

inductive AssemblyError
  | unsupportedVersion (found : String)
  | reference (e : ReferenceError)
  | convert (e : ConvertError)
  deriving DecidableEq

def AssemblyError.message : AssemblyError → String
  | unsupportedVersion found => "parse error: " ++ unsupportedVersionMessage found
  | reference e => "resolve error: " ++ e.message
  | convert e => "type conversion failed: " ++ e.message

namespace Location

def place : Location → ArgumentPlace
  | body => .body
  | path => .path
  | query => .query
  | header => .header
  | form => .form
  | other _ => .unrecognized

end Location

namespace Parameter

def singleton (p : Parameter) : Option Json :=
  match p.choices with
  | [value] => some value
  | _ => none

def toArgument (p : Parameter) (type : TypeExpr) : Argument :=
  { name := p.name
    camelCaseName := Naming.camelCase p.name
    place := p.location.place
    description := p.description
    required := p.required
    singleton := p.singleton
    pattern := if p.location = .query then p.pattern else none
    type }

end Parameter

namespace Document

/-- The argument for a parameter, unless it is excluded where it is used or where it is defined. -/
def argument (doc : Document) (use : ParameterUse) : Traced AssemblyError (Option Argument) :=
  if use.isExcluded then do
    Traced.note .debug "skipping excluded parameter reference"
    return none
  else do
    let p ←
      match use with
      | .reference path _ => Traced.ofExcept ((doc.parameter path).mapError .reference)
      | .inline p => pure p
    if p.isExcluded then do
      Traced.note .debug ("skipping excluded parameter `" ++ p.name ++ "`")
      return none
    else do
      match p.location with
      | .other word =>
        Traced.note .debug
          ("parameter `" ++ p.name ++ "` has unrecognized location `" ++ word ++ "`")
      | _ => pure ()
      let type ← (p.typeSchema.toType doc).mapError .convert
      return some (p.toArgument type)

def successSchema (doc : Document) (op : Operation) : Except ConvertError Schema := do
  let response ←
    match op.responses.get? "200" with
    | some (.reference path) => (doc.response path).mapError .reference
    | some (.inline r) => pure r
    | none => throw (.missingSchema "no 200 response")
  match response.schema with
  | some s => return s
  | none => throw (.missingSchema "200 response has no schema")

def successType (doc : Document) (op : Operation) : Traced ConvertError TypeExpr := do
  let s ← Traced.ofExcept (doc.successSchema op)
  s.toType doc

/-- The lists of an operation replace those of the document. -/
def fixedHeaders (doc : Document) (op : Operation) : List FixedHeader :=
  let accept := (op.produces.or doc.produces).map fun types => ⟨"Accept", ", ".intercalate types⟩
  let content := ((op.consumes.or doc.consumes).bind List.head?).map (⟨"Content-Type", ·⟩)
  accept.toList ++ content.toList

end Document

/-- Placeholders become references to the arguments. -/
def pathTemplate (path : String) : String :=
  String.ofList (path.toList.flatMap fun c =>
    if c = '\x7b' then "$\x7bparameters.".toList else [c])

def firstSegment (path : String) : String :=
  let cs := path.toList
  String.ofList (((Text.dropPrefix? ['/'] cs).getD cs).takeWhile (· ≠ '/'))

/-- Whether a path starts with a segment, in letters of either case. -/
def startsWithSegment (path segment : String) : Bool :=
  firstSegment path ≠ "" && Text.eqIgnoreCase (firstSegment path) segment

namespace Document

def method (doc : Document) (options : Options) (path : String) (verb : Verb) (op : Operation)
    (shared : List ParameterUse) : Traced AssemblyError (Option Method) := do
  let label := verb.name ++ " " ++ path ++ ": "
  let response ← (doc.successType op).attempt
  let (responseType, responseImport) ←
    match response with
    | .ok t => pure (t.text, t.importTarget)
    | .error e => do
      Traced.note .debug
        (label ++ "falling back to `" ++ options.defaultResponseType ++ "` (" ++ e.message ++ ")")
      pure (options.defaultResponseType, none)
  let arguments ← (op.parameters ++ shared).mapM doc.argument
  let method : Method :=
    { name := op.operationId.elim (Naming.methodName verb path) Naming.identifier
      verb
      path
      pathTemplate := pathTemplate path
      summary := op.description.or op.summary
      externalDocs := op.externalDocs
      tags := op.tags
      deprecated := op.deprecated.getD false
      security := Security.flags doc op
      arguments := arguments.filterMap id
      headers := doc.fixedHeaders op
      responseType
      responseImport }
  match options.pathFilter with
  | none => return some method
  | some segment =>
    if startsWithSegment path segment then return some method
    else do
      Traced.note .debug (label ++ "outside generate_for_path `" ++ segment ++ "`")
      return none

def typeDeclaration (doc : Document) (name : String) (s : Schema) :
    Traced AssemblyError TypeDeclaration := do
  let type ← (doc.definitionType name s).mapError .convert
  return ⟨Naming.typeName name, s.description, type⟩

def trimEnd (c : Char) (s : String) : String :=
  String.ofList (s.toList.reverse.dropWhile (· = c)).reverse

def domain (doc : Document) : String :=
  let filled (s : Option String) : Option String := s.filter (· ≠ "")
  match filled doc.schemes.head?, filled doc.host, filled doc.basePath with
  | some scheme, some host, some basePath => scheme ++ "://" ++ host ++ trimEnd '/' basePath
  | _, _, _ => ""

def bindingsInfo (doc : Document) (options : Options) : BindingsInfo :=
  { description := doc.info.description
    className := options.className
    moduleName := options.moduleName
    isEs6 := options.isEs6
    imports := options.imports
    domain := doc.domain
    basePath := doc.basePath
    isSecure := doc.securityDefinitions.isSome }

/-- A path with a verb, its operation and the parameters that the path gives to it. -/
structure Route where
  path : String
  verb : Verb
  operation : Operation
  shared : List ParameterUse

def routes (doc : Document) : List Route :=
  doc.paths.entries.flatMap fun (path, item) =>
    item.operations.entries.map fun (verb, op) => ⟨path, verb, op, item.parameters⟩

/-- The bindings so far with the method of a route, and the number of routes left out. -/
def addRoute (doc : Document) (options : Options) (state : Bindings × Nat) (r : Route) :
    Traced AssemblyError (Bindings × Nat) := do
  match ← doc.method options r.path r.verb r.operation r.shared with
  | none => return (state.1, state.2 + 1)
  | some m =>
    if state.1.hasMethod m.name then
      Traced.note .warn ("duplicate method name `" ++ m.name ++ "` (" ++ m.verb.name ++ " " ++
        m.path ++ ")")
    return (state.1.addMethod m, state.2)

def addDefinition (doc : Document) (b : Bindings) (entry : String × Schema) :
    Traced AssemblyError Bindings := do
  let d ← doc.typeDeclaration entry.1 entry.2
  return b.addDefinition d

def bindings (doc : Document) (options : Options) : Traced AssemblyError Bindings := do
  Traced.ofExcept (doc.checkVersion.mapError fun _ => .unsupportedVersion doc.version)
  let start : Bindings := ⟨doc.bindingsInfo options, {}, [], [], []⟩
  let (b, skipped) ← doc.routes.foldlM (doc.addRoute options) (start, 0)
  let b ← doc.definitions.entries.foldlM doc.addDefinition b
  Traced.note .info ("assembled " ++ toString b.methods.length ++ " methods (" ++
    toString skipped ++ " filtered out), " ++ toString b.definitions.length ++ " definitions, " ++
    toString b.imports.length ++ " imported types")
  return b

end Document

end ApiBindings
