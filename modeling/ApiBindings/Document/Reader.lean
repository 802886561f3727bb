import ApiBindings.Document.Basic
import ApiBindings.Json.Source
import ApiBindings.Reading.Buffered
import ApiBindings.Yaml.Source

/-!
Reading API documents and their parts. Schemas, and all places where a reference may stand, are read
in full before their shape is known.
-/

namespace ApiBindings

namespace Reading

open Source

variable {ν : Type} [Source ν]

def optionalText : ν → Read (Option String) := optional text

def texts : ν → Read (List String) := list text

def referencePath (d : Datum) : Read String :=
  match d with
  | .table _ => record "" [.must "$ref" text fun _ path => path] d
  | _ => mismatch

section

variable {σ : Type} (schema : Datum → Read σ)

def additional : Datum → Read (Additional σ) :=
  oneOf (fun d => .flag <$> flag d) fun d => .values <$> schema d

def schemaType : ν → Read SchemaType := fun v => SchemaType.ofWord <$> text v

def bodyFields : List (Field Datum (SchemaBody σ)) :=
  [.may "type" (optional schemaType) fun b x => { b with type := x },
    .may "format" optionalText fun b x => { b with format := x },
    .may "title" optionalText fun b x => { b with title := x },
    .may "description" optionalText fun b x => { b with description := x },
    .may "default" (optional json) fun b x => { b with default := x },
    .may "properties" (table schema) fun b x => { b with properties := x.entries },
    .may "required" texts fun b x => { b with required := x },
    .may "additionalProperties" (optional (additional schema)) fun b x =>
      { b with additional := x },
    .may "items" (optional schema) fun b x => { b with items := x },
    .may "allOf" (list schema) fun b x => { b with allOf := x },
    .may "enum" (list json) fun b x => { b with choices := x },
    .may "discriminator" optionalText fun b x => { b with discriminator := x },
    .may "readOnly" (optional flag) fun b x => { b with readOnly := x },
    .may "example" (optional json) fun b x => { b with example? := x }]

end

def schemaWithin : Nat → Datum → Read Schema
  | 0, _ => mismatch
  | n + 1, d =>
    oneOf (fun d => .reference <$> referencePath d)
      (fun d => .inline <$> record {} (bodyFields (schemaWithin n)) d) d

def schema (v : ν) : Read Schema := do
  let d ← datum v
  schemaWithin (d.height + 1) d

def parameterFields : List (Field ν Parameter) :=
  [.must "name" text fun p x => { p with name := x },
    .must "in" text fun p x => { p with location := .ofWord x },
    .may "description" optionalText fun p x => { p with description := x },
    .may "required" flag fun p x => { p with required := x },
    .may "schema" (optional schema) fun p x => { p with schema := x },
    .may "type" (optional schemaType) fun p x => { p with type := x },
    .may "format" optionalText fun p x => { p with format := x },
    .may "items" (optional schema) fun p x => { p with items := x },
    .may "collectionFormat" optionalText fun p x => { p with collectionFormat := x },
    .may "default" (optional json) fun p x => { p with default := x },
    .may "enum" (list json) fun p x => { p with choices := x },
    .may "x-exclude-from-bindings" (optional json) fun p x =>
      { p with exclusion := { p.exclusion with fromBindings := x } },
    .may "x-proxy-header" (optional json) fun p x =>
      { p with exclusion := { p.exclusion with proxyHeader := x } },
    .may "x-name-pattern" (optional json) fun p x => { p with namePattern := x }]

def parameter : ν → Read Parameter := record ⟨"", .body, none, false, none, none, none, none, none,
  none, [], {}, none⟩ parameterFields

/-- A reference, with the extensions that may stand beside it. -/
def parameterReference (d : Datum) : Read ParameterUse :=
  match d with
  | .table _ => do
    let (path, exclusion) ← record (ρ := String × Exclusion) ("", {})
      [.must "$ref" text fun r x => (x, r.2),
        .may "x-exclude-from-bindings" (optional json) fun r x =>
          (r.1, { r.2 with fromBindings := x }),
        .may "x-proxy-header" (optional json) fun r x => (r.1, { r.2 with proxyHeader := x })] d
    return .reference path exclusion
  | _ => mismatch

def parameterUse : ν → Read ParameterUse :=
  oneOf parameterReference fun d => .inline <$> parameter d

def response : ν → Read Response :=
  record {}
    [.may "description" optionalText fun r x => { r with description := x },
      .may "schema" (optional schema) fun r x => { r with schema := x },
      .may "headers" (table json) fun r x => { r with headers := x }]

def responseUse : ν → Read ResponseUse :=
  oneOf (fun d => .reference <$> referencePath d) fun d => .inline <$> response d

def externalDocs : ν → Read ExternalDocs :=
  record ⟨"", none⟩
    [.must "url" text fun r x => { r with url := x },
      .may "description" optionalText fun r x => { r with description := x }]

def requirements : ν → Read (List Requirement) := list (table texts)

def operation : ν → Read Operation :=
  record {}
    [.may "operationId" optionalText fun o x => { o with operationId := x },
      .may "summary" optionalText fun o x => { o with summary := x },
      .may "description" optionalText fun o x => { o with description := x },
      .may "externalDocs" (optional externalDocs) fun o x => { o with externalDocs := x },
      .may "tags" texts fun o x => { o with tags := x },
      .may "parameters" (list parameterUse) fun o x => { o with parameters := x },
      .may "responses" (table responseUse) fun o x => { o with responses := x },
      .may "produces" (optional texts) fun o x => { o with produces := x },
      .may "consumes" (optional texts) fun o x => { o with consumes := x },
      .may "security" (optional requirements) fun o x => { o with security := x },
      .may "deprecated" (optional flag) fun o x => { o with deprecated := x }]

def isExtension (key : String) : Bool := (Text.dropPrefix? ['x', '-'] key.toList).isSome

/-- Keys are verbs in letters of either case, `parameters` or extensions; the last value of a key
counts. -/
def pathItem (v : ν) : Read PathItem := do
  let parts ← members v
  let item ← parts.items.foldlM (fun (item : PathItem) (key, w) => do
    let key ← key
    if Text.eqIgnoreCase key "parameters" then
      return { item with parameters := ← list parameterUse w }
    else
      match Verb.ofName? key with
      | some verb => return { item with operations := item.operations.insert verb (← operation w) }
      | none =>
        if isExtension key then note .debug ("ignoring path item extension `" ++ key ++ "`")
        else note .warn ("ignoring unsupported path item key `" ++ key ++ "`")
        skip w
        return item) {}
  parts.close
  return item

def paths (v : ν) : Read (OrderedMap String PathItem) := do
  let parts ← members v
  let items ← parts.items.foldlM (fun (items : OrderedMap String PathItem) (key, w) => do
    let key ← key
    if isExtension key then
      note .debug ("ignoring paths extension `" ++ key ++ "`")
      skip w
      return items
    else return items.insert key (← pathItem w)) ∅
  parts.close
  return items

def securityScheme : ν → Read SecurityScheme :=
  record ⟨.basic, none, none, none, none, none, none, ∅⟩
    [.must "type" (choose SchemeType.ofName?) fun s x => { s with type := x },
      .may "description" optionalText fun s x => { s with description := x },
      .may "name" optionalText fun s x => { s with name := x },
      .may "in" (optional (choose KeyLocation.ofName?)) fun s x => { s with location := x },
      .may "flow" optionalText fun s x => { s with flow := x },
      .may "authorizationUrl" optionalText fun s x => { s with authorizationUrl := x },
      .may "tokenUrl" optionalText fun s x => { s with tokenUrl := x },
      .may "scopes" (table text) fun s x => { s with scopes := x }]

def info : ν → Read Info :=
  record ⟨"", none, "", none⟩
    [.must "title" text fun i x => { i with title := x },
      .may "description" optionalText fun i x => { i with description := x },
      .must "version" text fun i x => { i with version := x },
      .may "termsOfService" optionalText fun i x => { i with termsOfService := x }]

def tag : ν → Read Tag :=
  record ⟨"", none⟩
    [.must "name" text fun t x => { t with name := x },
      .may "description" optionalText fun t x => { t with description := x }]

def documentFields : List (Field ν Document) :=
  [.must "swagger" text fun d x => { d with version := x },
    .must "info" info fun d x => { d with info := x },
    .may "host" optionalText fun d x => { d with host := x },
    .may "basePath" optionalText fun d x => { d with basePath := x },
    .may "schemes" texts fun d x => { d with schemes := x },
    .may "consumes" (optional texts) fun d x => { d with consumes := x },
    .may "produces" (optional texts) fun d x => { d with produces := x },
    .may "paths" paths fun d x => { d with paths := x },
    .may "definitions" (table schema) fun d x => { d with definitions := x },
    .may "parameters" (table parameter) fun d x => { d with parameters := x },
    .may "responses" (table response) fun d x => { d with responses := x },
    .may "securityDefinitions" (optional (table securityScheme)) fun d x =>
      { d with securityDefinitions := x },
    .may "security" (optional requirements) fun d x => { d with security := x },
    .may "tags" (list tag) fun d x => { d with tags := x },
    .may "externalDocs" (optional externalDocs) fun d x => { d with externalDocs := x }]

def document : ν → Read Document :=
  record { version := "", info := ⟨"", none, "", none⟩ } documentFields

/-- The version alone; all else is passed over. -/
def versionHeader : ν → Read (Option Json) :=
  record none [.may "swagger" (optional json) fun _ x => x]

end Reading

inductive Format
  | json
  | yaml
  deriving DecidableEq

inductive ReadError
  | fault (format : Format) (fault : Reading.Fault)
  | unsupportedVersion (found : String)
  deriving DecidableEq

def unsupportedVersionMessage (found : String) : String :=
  "only Swagger 2.0 documents are supported, got swagger: " ++ found

def Format.decode {α : Type} (format : Format)
    (read : {ν : Type} → [Reading.Source ν] → ν → Reading.Read α) (text : String) :
    Traced ReadError α :=
  (match format with
    | .json => (Json.decode read text).run
    | .yaml => (Yaml.decode read text).run).mapError (.fault format)

namespace Document

/-- Refuses a version that is not written as exactly `"2.0"`. -/
def checkHeader : Option Json → Except ReadError Unit
  | some (.string s) => if s = supportedVersion then .ok () else .error (.unsupportedVersion s)
  | some j => .error (.unsupportedVersion j.compact)
  | none => .error (.unsupportedVersion "<missing>")

def checkVersion (d : Document) : Except ReadError Unit :=
  if d.version = supportedVersion then .ok () else .error (.unsupportedVersion d.version)

/-- The version is read first, so a document of another version is refused as such whatever else it
holds. -/
def ofText (format : Format) (text : String) : Traced ReadError Document := do
  let header ← format.decode Reading.versionHeader text
  Traced.ofExcept (checkHeader header)
  format.decode Reading.document text

end Document

end ApiBindings
