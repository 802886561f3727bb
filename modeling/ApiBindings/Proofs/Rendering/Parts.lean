import ApiBindings.Proofs.Template.Writing
import ApiBindings.Rendering.Basic

/-!
What the built-in templates write, told without templates: code, and the
comments in it. In each mode the records of the bindings have parts of their
own, between parts for the bindings as a whole.
-/

namespace ApiBindings.Rendering

open Template

/-- A comment is told by what stands between its signs. -/
inductive Part
  | code (s : String)
  | comment (s : String)

def Part.text : Part → String
  | code s => s
  | comment s => "/**" ++ s ++ "*/"

def written (parts : List Part) : String := String.join (parts.map Part.text)

def together (pieces : List String) : String :=
  String.ofList (pieces.flatMap String.toList)

/-! Types. -/

def propertyParts (p : Property TypeExpr) : List Part :=
  (filled p.type.description).elim []
      (fun d =>
        [.code "  ", .comment (" " ++ escapeComment d ++ " "), .code "\n"]) ++
    [.code ("  " ++ Naming.propertyKey p.name ++ TypeExpr.marker p.optional ++
      ": " ++ p.type.inline ++ ";\n")]

def declarationParts (d : TypeDeclaration) : List Part :=
  (filled d.description).elim []
      (fun d => [.comment ("\n * " ++ escapeComment d ++ "\n "), .code "\n"]) ++
    if d.type.kind = .object then
      .code ("export interface " ++ d.name ++ " \x7b\n") ::
        d.type.properties.flatMap propertyParts ++ [.code "\x7d\n"]
    else [.code ("export type " ++ d.name ++ " = " ++ d.type.inline ++ ";\n")]

/-! Methods. -/

def argumentNote (a : Argument) : String :=
  "   * @param " ++ a.name ++
    ifGiven a.description (fun d => escapeComment (" " ++ d)) ++ "\n"

def docsNote (docs : Option ExternalDocs) : String :=
  docs.elim "" fun d => "   * @see " ++ d.url ++ "\n"

def methodNote (m : Method) : String :=
  ifGiven m.summary (fun s => "   * " ++ escapeComment s ++ "\n   *\n") ++
    "   * " ++ m.verb.name ++ " " ++ m.path ++ "\n" ++
    String.join (m.arguments.map argumentNote) ++ docsNote m.externalDocs ++
    if m.deprecated then "   * @deprecated\n" else ""

def argumentLine (a : Argument) : String :=
  if a.pattern.isSome then
    "    " ++ Naming.propertyKey a.name ++ TypeExpr.marker (!a.required) ++
      ": \x7b [key: string]: " ++ a.type.inline ++ " \x7d;\n"
  else
    "    " ++ Naming.propertyKey a.name ++ TypeExpr.marker (!a.required) ++ ": " ++
      a.type.inline ++ ";\n"

def signature (m : Method) : String :=
  m.name ++ "(parameters: \x7b\n" ++ String.join (m.arguments.map argumentLine) ++
    "  \x7d" ++ (if !m.arguments.any (·.required) then " = \x7b\x7d" else "") ++
    "): Promise<" ++ m.responseType

def copied (a : Argument) (before middle after : String) : String :=
  "    if (parameters[" ++ Text.quote a.name ++ before ++ Text.quote a.name ++
    middle ++ Text.quote a.name ++ after

def queryCode (a : Argument) : String :=
  match a.singleton with
  | some value =>
    "    query[" ++ Text.quote a.name ++ "] = " ++ value.compact ++ ";\n"
  | none =>
    if a.pattern.isSome then
      "    Object.assign(query, parameters[" ++ Text.quote a.name ++ "]);\n"
    else
      copied a "] !== undefined) \x7b\n      query[" "] = parameters["
        "];\n    \x7d\n"

/-- A request is not sent without the required arguments of its path. -/
def missingCode (a : Argument) : String :=
  "    if (parameters[" ++ Text.quote a.name ++
    "] === undefined) \x7b\n      throw new Error(" ++
    Text.quote ("Missing required path parameter: " ++ a.name) ++
    ");\n    \x7d\n"

/-- How an argument gets into the request. The body has a place of its own
there, and arguments of the path stand in the address. -/
def argumentCode (a : Argument) : String :=
  match a.place with
  | .query => queryCode a
  | .header =>
    copied a "] !== undefined) \x7b\n      headers[" "] = String(parameters["
      "]);\n    \x7d\n"
  | .form =>
    copied a "] !== undefined) \x7b\n      form[" "] = parameters["
      "];\n    \x7d\n"
  | .path => if a.required then missingCode a else ""
  | .body => ""
  | .unrecognized => ""

def headerLine (h : FixedHeader) : String :=
  "      " ++ Text.quote h.name ++ ": " ++ Text.quote h.value ++ ",\n"

def hasForm (m : Method) : Bool := m.arguments.any (·.place = .form)

def bodyStart : String :=
  together ["> \x7b\n",
    "    const query: Record<string, unknown> = \x7b\x7d;\n",
    "    const headers: Record<string, string> = \x7b\n"]

def methodBody (m : Method) : String :=
  bodyStart ++
    String.join (m.headers.map headerLine) ++ "    \x7d;\n" ++
    (if hasForm m then
      "    const form: Record<string, unknown> = \x7b\x7d;\n" else "") ++
    String.join (m.arguments.map argumentCode)

def bodyLiteral (m : Method) : Option String :=
  (m.arguments.find? (·.place = .body)).map fun a => Text.quote a.name

def sendCode (m : Method) : String :=
  "    return this.request<" ++ m.responseType ++ ">(\x7b\n      method: '" ++
    m.verb.name ++ "',\n      url: this.domain + `" ++ m.pathTemplate ++
    "`,\n      query,\n      headers,\n" ++
    ifGiven (bodyLiteral m)
      (fun name => "      body: parameters[" ++ name ++ "],\n") ++
    (if hasForm m then "      form,\n" else "") ++
    (if m.security.isSecure then
      "      security: [" ++ ", ".intercalate
        ((securityKinds m.security).map fun kind => "'" ++ kind ++ "'") ++ "],\n"
    else "") ++
    "    \x7d);\n  \x7d"

def methodParts (m : Method) : List Part :=
  [.code "  ", .comment ("\n" ++ methodNote m ++ "   "),
    .code ("\n  " ++ signature m ++ methodBody m ++ sendCode m)]

/-! Files. -/

def requestTypes : List String :=
  ["export type SecurityKind = 'token' | 'apiKey' | 'basic';\n\n",
    "export interface RequestOptions \x7b\n",
    "  method: string;\n",
    "  url: string;\n",
    "  query: Record<string, unknown>;\n",
    "  headers: Record<string, string>;\n",
    "  body?: unknown;\n",
    "  form?: Record<string, unknown>;\n",
    "  security?: SecurityKind[];\n\x7d\n\n"]

def requestNote : String :=
  " Performs the HTTP call; the generated code never talks to the network itself. "

def requestType : String :=
  "\nexport type RequestFn = <T>(options: RequestOptions) => Promise<T>;"

def requestParts : List Part :=
  [.code (together requestTypes), .comment requestNote, .code requestType]

/-- The start of a file, up to the imports that the options ask for. -/
def headParts (info : BindingsInfo) : List Part :=
  [.code "/* eslint-disable */\n",
    .comment ("\n * " ++ info.moduleName ++
      ifGiven info.description (fun d => ": " ++ escapeComment d) ++
      "\n *\n * Generated by stg. Do not edit by hand.\n "),
    .code ("\n" ++ String.join (info.imports.map fun line => line ++ "\n"))]

/-- The parts of a file: those of each record, and what stands around them. -/
structure Layout where
  head : BindingsInfo → List String → List Part
  declaration : TypeDeclaration → List Part := fun _ => []
  middle : BindingsInfo → List Part := fun _ => []
  method : Method → List Part := fun _ => []
  tail : BindingsInfo → List Part := fun _ => []

def Layout.parts (l : Layout) (b : Bindings) : List Part :=
  l.head b.info b.imports ++ b.definitions.flatMap l.declaration ++
    l.middle b.info ++ b.methods.flatMap l.method ++ l.tail b.info

def classStart : String :=
  together [" \x7b\n",
    "  private readonly request: RequestFn;\n",
    "  private readonly domain: string;\n\n",
    "  constructor(request: RequestFn, domain: string = "]

def clientLayout : Layout where
  head info _ := headParts info ++ .code "\n" :: requestParts ++ [.code "\n\n"]
  declaration d := declarationParts d ++ [.code "\n\n"]
  middle info :=
    [.code ((if info.isEs6 then "export " else "") ++ "class " ++
      info.className ++ classStart ++ Text.quote info.domain ++
      ") \x7b\n    this.request = request;\n    this.domain = domain;\n  \x7d\n")]
  method m := .code "\n" :: methodParts m ++ [.code "\n"]
  tail info :=
    [.code ("\x7d\n" ++
      if !info.isEs6 then "\nexport = " ++ info.className ++ ";\n" else "")]

def typesLayout : Layout where
  head info _ :=
    [.code "/* eslint-disable */\n",
      .comment ("\n * Types for " ++ info.moduleName ++
        ".\n *\n * Generated by stg. Do not edit by hand.\n "),
      .code "\n"]
  declaration d := .code "\n" :: declarationParts d ++ [.code "\n"]

def classWrapperLayout : Layout where
  head info imports :=
    headParts info ++
      .code ((if !imports.isEmpty then
        Bindings.importStatement { info, imports } ++ "\n" else "") ++ "\n") ::
      requestParts ++
      [.code ("\n\nexport function create" ++ info.className ++
        "(request: RequestFn, domain: string = " ++ Text.quote info.domain ++
        ") \x7b\n  return \x7b\n    request,\n    domain,\n")]
  method m := .code "\n" :: methodParts m ++ [.code ",\n"]
  tail _ := [.code "  \x7d;\n\x7d"]

def layout? : Mode → Option Layout
  | .client => some clientLayout
  | .types => some typesLayout
  | .classWrapper => some classWrapperLayout
  | .custom => none

theorem exists_layout {mode : Mode} (known : mode ≠ .custom) :
    ∃ l, layout? mode = some l := by
  cases mode with
  | client => exact ⟨_, rfl⟩
  | types => exact ⟨_, rfl⟩
  | classWrapper => exact ⟨_, rfl⟩
  | custom => exact absurd rfl known

end ApiBindings.Rendering
