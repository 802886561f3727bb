import ApiBindings.Bindings.Basic
import ApiBindings.Template.Value

/-!
Bindings as values for templates. All quoting and all types written out are done here; the
templates only put texts together.
-/

namespace ApiBindings.Rendering

open Template

def flag (b : Bool) : Value := .bool b

mutual
def typeValue : TypeExpr → Value
  | ⟨text, kind, importTarget, description, properties, element⟩ =>
    let t : TypeExpr := ⟨text, kind, importTarget, description, properties, element⟩
    .ofFields
      [("expr", .text text), ("inline", .text t.inline), ("kind", .text kind.name),
        ("is_atomic", flag t.isAtomic), ("is_ref", flag (kind = .reference)),
        ("is_enum", flag (kind = .choice)), ("is_array", flag (kind = .array)),
        ("is_map", flag (kind = .map)), ("is_object", flag (kind = .object)),
        ("target", .ofOption importTarget), ("description", .ofOption description),
        ("properties", .list (propertyValues properties))]

def propertyValue : Property TypeExpr → Value
  | ⟨name, type, optional⟩ =>
    .ofFields
      [("name", .text name), ("key", .text (Naming.propertyKey name)),
        ("optional", flag optional), ("cardinality", .text (TypeExpr.marker optional)),
        ("description", .ofOption type.description), ("type_expr", typeValue type)]

def propertyValues : List (Property TypeExpr) → List Value
  | [] => []
  | p :: ps => propertyValue p :: propertyValues ps
end

def placeName : ArgumentPlace → String
  | .body => "body"
  | .path => "path"
  | .query => "query"
  | .header => "header"
  | .form => "formData"
  | .unrecognized => ""

def argumentValue (a : Argument) : Value :=
  .ofFields
    [("name", .text a.name), ("name_literal", .text (Text.quote a.name)),
      ("key", .text (Naming.propertyKey a.name)), ("camel_case_name", .text a.camelCaseName),
      ("description", .ofOption a.description), ("location", .text (placeName a.place)),
      ("is_body_parameter", flag (a.place = .body)),
      ("is_path_parameter", flag (a.place = .path)),
      ("is_query_parameter", flag (a.place = .query)),
      ("is_header_parameter", flag (a.place = .header)),
      ("is_form_parameter", flag (a.place = .form)),
      ("cardinality", .text (TypeExpr.marker !a.required)), ("is_required", flag a.required),
      ("is_singleton", flag a.singleton.isSome),
      ("singleton_literal", .ofOption (a.singleton.map Json.compact)),
      ("is_pattern_type", flag a.pattern.isSome), ("pattern", .ofOption a.pattern),
      ("type_expr", typeValue a.type)]

def headerValue (h : FixedHeader) : Value :=
  .ofFields
    [("name", .text h.name), ("value", .text h.value), ("name_literal", .text (Text.quote h.name)),
      ("value_literal", .text (Text.quote h.value))]

def externalDocsValue (d : ExternalDocs) : Value :=
  .ofFields [("url", .text d.url), ("description", .ofOption d.description)]

def securityKinds (f : SecurityFlags) : List String :=
  (if f.token then ["token"] else []) ++ (if f.apiKey then ["apiKey"] else []) ++
    if f.basic then ["basic"] else []

def methodValue (className : String) (m : Method) : Value :=
  let body := (m.arguments.find? (·.place = .body)).map fun a => Text.quote a.name
  .ofFields
    [("name", .text m.name), ("class_name", .text className), ("method", .text m.verb.name),
      ("is_get", flag (m.verb = .get)), ("is_post", flag (m.verb = .post)),
      ("path", .text m.path), ("path_format_string", .text m.pathTemplate),
      ("summary", .ofOption m.summary),
      ("external_docs", (m.externalDocs.map externalDocsValue).getD .none),
      ("tags", .texts m.tags), ("deprecated", flag m.deprecated),
      ("is_secure", flag m.security.isSecure), ("is_secure_token", flag m.security.token),
      ("is_secure_api_key", flag m.security.apiKey), ("is_secure_basic", flag m.security.basic),
      ("security_kinds", .texts (securityKinds m.security)),
      ("parameters", .list (m.arguments.map argumentValue)),
      ("has_parameters", flag !m.arguments.isEmpty),
      ("has_required_parameters", flag (m.arguments.any (·.required))),
      ("has_form_parameters", flag (m.arguments.any (·.place = .form))),
      ("body_name_literal", .ofOption body), ("headers", .list (m.headers.map headerValue)),
      ("response_type", .text m.responseType)]

def definitionValue (d : TypeDeclaration) : Value :=
  .ofFields
    [("name", .text d.name), ("description", .ofOption d.description),
      ("type_expr", typeValue d.type)]

def bindingsFields (b : Bindings) : List (String × Value) :=
  [("description", .ofOption b.info.description), ("class_name", .text b.info.className),
    ("module_name", .text b.info.moduleName), ("is_es6", flag b.info.isEs6),
    ("imports", .texts b.info.imports), ("domain", .text b.info.domain),
    ("domain_literal", .text (Text.quote b.info.domain)),
    ("base_path", .ofOption b.info.basePath), ("is_secure", flag b.info.isSecure),
    ("is_secure_token", flag b.security.token), ("is_secure_api_key", flag b.security.apiKey),
    ("is_secure_basic", flag b.security.basic),
    ("methods", .list (b.methods.map (methodValue b.info.className))),
    ("definitions", .list (b.definitions.map definitionValue)),
    ("has_imports", flag !b.imports.isEmpty), ("types_to_import", .texts b.imports),
    ("import_statement", .text b.importStatement)]

def extraFields (extra : List (String × Json)) : List (String × Value) :=
  extra.map fun (k, j) => (k, Value.ofJson j)

/-- The members of a map with names as its keys; later fields replace earlier ones. -/
def fieldMembers (fields : List (String × Value)) : List (Value × Value) :=
  fields.foldl (fun ms (k, v) => Value.putMember (.text k) v ms) []

/-- Extra values replace those of the same name. -/
def context (b : Bindings) (extra : List (String × Json)) : List (Value × Value) :=
  fieldMembers (bindingsFields b ++ extraFields extra)

end ApiBindings.Rendering
