import ApiBindings.Proofs.Rendering.Parts

/-!
The built-in templates as they are read. Their texts are cut at the tags; a tag
on a line of its own takes the line with it.
-/

namespace ApiBindings.Rendering

open Template

abbrev fieldOf (x f : String) : Expr := .field (.name x) f

abbrev partOf (x f g : String) : Expr := .field (fieldOf x f) g

abbrev escaped (e : Expr) : Node := .output (.filter "escape_jsdoc" e [])

abbrev whenever (test : Expr) (body : List Node) : Node := .ifElse test body []

abbrev noted (before : String) (e : Expr) (after : String) : Node :=
  whenever e [.text before, escaped e, .text after]

abbrev forEach (x : String) (e : Expr) (body : List Node) : Node :=
  .loop (.name x) e none body []

abbrev included (name : String) : Node := .embed (.const (.text name)) false

def requestTree : List Node :=
  [.text (together (requestTypes ++ ["/**", requestNote, "*/", requestType]))]

def propertyTree : List Node :=
  [noted "  /** " (fieldOf "prop" "description") " */\n",
    .text "  ",
    .output (fieldOf "prop" "key"),
    .output (fieldOf "prop" "cardinality"),
    .text ": ",
    .output (partOf "prop" "type_expr" "inline"),
    .text ";\n"]

def typeTree : List Node :=
  [noted "/**\n * " (fieldOf "definition" "description") "\n */\n",
    .ifElse (partOf "definition" "type_expr" "is_object")
      [.text "export interface ",
        .output (fieldOf "definition" "name"),
        .text " \x7b\n",
        forEach "prop" (partOf "definition" "type_expr" "properties") propertyTree,
        .text "\x7d\n"]
      [.text "export type ",
        .output (fieldOf "definition" "name"),
        .text " = ",
        .output (partOf "definition" "type_expr" "inline"),
        .text ";\n"]]

def argumentNoteTree : List Node :=
  [.text "   * @param ",
    .output (fieldOf "p" "name"),
    .output (.ifElse (fieldOf "p" "description")
      (.filter "escape_jsdoc"
        (.binary .concat (.const (.text " ")) (fieldOf "p" "description")) [])
      none),
    .text "\n"]

def methodNoteTree : List Node :=
  [.text "  /**\n",
    noted "   * " (fieldOf "method" "summary") "\n   *\n",
    .text "   * ",
    .output (fieldOf "method" "method"),
    .text " ",
    .output (fieldOf "method" "path"),
    .text "\n",
    forEach "p" (fieldOf "method" "parameters") argumentNoteTree,
    whenever (fieldOf "method" "external_docs")
      [.text "   * @see ",
        .output (partOf "method" "external_docs" "url"),
        .text "\n"],
    whenever (fieldOf "method" "deprecated") [.text "   * @deprecated\n"]]

def argumentLineTree : Node :=
  .ifElse (fieldOf "p" "is_pattern_type")
    [.text "    ",
      .output (fieldOf "p" "key"),
      .output (fieldOf "p" "cardinality"),
      .text ": \x7b [key: string]: ",
      .output (partOf "p" "type_expr" "inline"),
      .text " \x7d;\n"]
    [.text "    ",
      .output (fieldOf "p" "key"),
      .output (fieldOf "p" "cardinality"),
      .text ": ",
      .output (partOf "p" "type_expr" "inline"),
      .text ";\n"]

def signatureTree : List Node :=
  [.text "   */\n  ",
    .output (fieldOf "method" "name"),
    .text "(parameters: \x7b\n",
    forEach "p" (fieldOf "method" "parameters") [argumentLineTree],
    .text "  \x7d",
    whenever (.not (fieldOf "method" "has_required_parameters"))
      [.text " = \x7b\x7d"],
    .text "): Promise<",
    .output (fieldOf "method" "response_type")]

def copyTree (before middle after : String) : List Node :=
  [.text "    if (parameters[",
    .output (fieldOf "p" "name_literal"),
    .text before,
    .output (fieldOf "p" "name_literal"),
    .text middle,
    .output (fieldOf "p" "name_literal"),
    .text after]

def queryTree : Node :=
  .ifElse (fieldOf "p" "is_singleton")
    [.text "    query[",
      .output (fieldOf "p" "name_literal"),
      .text "] = ",
      .output (fieldOf "p" "singleton_literal"),
      .text ";\n"]
    [.ifElse (fieldOf "p" "is_pattern_type")
      [.text "    Object.assign(query, parameters[",
        .output (fieldOf "p" "name_literal"),
        .text "]);\n"]
      (copyTree "] !== undefined) \x7b\n      query[" "] = parameters["
        "];\n    \x7d\n")]

def missingTree : List Node :=
  [.text "    if (parameters[",
    .output (fieldOf "p" "name_literal"),
    .text "] === undefined) \x7b\n      throw new Error(",
    .output (.filter "string_literal"
      (.binary .concat
        (.const (.text "Missing required path parameter: "))
        (fieldOf "p" "name")) []),
    .text ");\n    \x7d\n"]

def argumentTree : Node :=
  .ifElse (fieldOf "p" "is_query_parameter") [queryTree]
    [.ifElse (fieldOf "p" "is_header_parameter")
      (copyTree "] !== undefined) \x7b\n      headers[" "] = String(parameters["
        "]);\n    \x7d\n")
      [.ifElse (fieldOf "p" "is_form_parameter")
        (copyTree "] !== undefined) \x7b\n      form[" "] = parameters["
          "];\n    \x7d\n")
        [whenever
          (.binary .and (fieldOf "p" "is_path_parameter")
            (fieldOf "p" "is_required"))
          missingTree]]]

def headerTree : List Node :=
  [.text "      ",
    .output (fieldOf "h" "name_literal"),
    .text ": ",
    .output (fieldOf "h" "value_literal"),
    .text ",\n"]

def methodBodyTree : List Node :=
  [.text bodyStart,
    forEach "h" (fieldOf "method" "headers") headerTree,
    .text "    \x7d;\n",
    whenever (fieldOf "method" "has_form_parameters")
      [.text "    const form: Record<string, unknown> = \x7b\x7d;\n"],
    forEach "p" (fieldOf "method" "parameters") [argumentTree]]

def sendTree : List Node :=
  [.text "    return this.request<",
    .output (fieldOf "method" "response_type"),
    .text ">(\x7b\n      method: '",
    .output (fieldOf "method" "method"),
    .text "',\n      url: this.domain + `",
    .output (fieldOf "method" "path_format_string"),
    .text "`,\n      query,\n      headers,\n",
    whenever (fieldOf "method" "body_name_literal")
      [.text "      body: parameters[",
        .output (fieldOf "method" "body_name_literal"),
        .text "],\n"],
    whenever (fieldOf "method" "has_form_parameters") [.text "      form,\n"],
    whenever (fieldOf "method" "is_secure")
      [.text "      security: [",
        forEach "kind" (fieldOf "method" "security_kinds")
          [.text "'",
            .output (.name "kind"),
            .text "'",
            whenever (.not (fieldOf "loop" "last")) [.text ", "]],
        .text "],\n"],
    .text "    \x7d);\n  \x7d"]

def methodTree : List Node :=
  methodNoteTree ++ signatureTree ++ methodBodyTree ++ sendTree

/-- The start of a file, up to the imports that the options ask for. -/
def headTree : List Node :=
  [.text "/* eslint-disable */\n/**\n * ",
    .output (.name "module_name"),
    whenever (.name "description") [.text ": ", escaped (.name "description")],
    .text "\n *\n * Generated by stg. Do not edit by hand.\n */\n",
    forEach "line" (.name "imports") [.output (.name "line"), .text "\n"]]

def classTree : List Node :=
  headTree ++
    [.text "\n",
      included "request",
      .text "\n\n",
      forEach "definition" (.name "definitions") [included "type", .text "\n\n"],
      whenever (.name "is_es6") [.text "export "],
      .text "class ",
      .output (.name "class_name"),
      .text classStart,
      .output (.name "domain_literal"),
      .text ") \x7b\n    this.request = request;\n    this.domain = domain;\n  \x7d\n",
      forEach "method" (.name "methods")
        [.text "\n", included "method", .text "\n"],
      .text "\x7d\n",
      whenever (.not (.name "is_es6"))
        [.text "\nexport = ", .output (.name "class_name"), .text ";\n"]]

def typesTree : List Node :=
  [.text "/* eslint-disable */\n/**\n * Types for ",
    .output (.name "module_name"),
    .text ".\n *\n * Generated by stg. Do not edit by hand.\n */\n",
    forEach "definition" (.name "definitions")
      [.text "\n", included "type", .text "\n"]]

def classWrapperTree : List Node :=
  headTree ++
    [whenever (.name "has_imports")
        [.output (.name "import_statement"), .text "\n"],
      .text "\n",
      included "request",
      .text "\n\nexport function create",
      .output (.name "class_name"),
      .text "(request: RequestFn, domain: string = ",
      .output (.name "domain_literal"),
      .text ") \x7b\n  return \x7b\n    request,\n    domain,\n",
      forEach "method" (.name "methods")
        [.text "\n", included "method", .text ",\n"],
      .text "  \x7d;\n\x7d"]

def trees : Template.Library :=
  [("request", requestTree), ("type", typeTree), ("method", methodTree),
    ("class", classTree), ("types_wrapper", typesTree),
    ("class_wrapper", classWrapperTree)]

end ApiBindings.Rendering
