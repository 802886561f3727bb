import ApiBindings.Config.Basic

/-!
The templates that are used where the project gives none of its own.
-/

namespace ApiBindings.Rendering

def put (e : String) : String := "\x7b\x7b " ++ e ++ " \x7d\x7d"

def tag (e : String) : String := "\x7b% " ++ e ++ " %\x7d"

def fromLines (lines : List String) : String := String.join (lines.map (· ++ "\n"))

def clientLines : List String :=
  ["/* eslint-disable */",
    "/**",
    " * " ++ put "module_name" ++ tag "if description" ++ ": " ++
      put "description | escape_jsdoc" ++ tag "endif",
    "",
    " *",
    " * Generated by stg. Do not edit by hand.",
    " */",
    tag "for line in imports",
    put "line",
    tag "endfor",
    "",
    tag "include \"request\"",
    "",
    "",
    tag "for definition in definitions",
    tag "include \"type\"",
    "",
    "",
    tag "endfor",
    tag "if is_es6" ++ "export " ++ tag "endif" ++ "class " ++ put "class_name" ++ " \x7b",
    "  private readonly request: RequestFn;",
    "  private readonly domain: string;",
    "",
    "  constructor(request: RequestFn, domain: string = " ++ put "domain_literal" ++ ") \x7b",
    "    this.request = request;",
    "    this.domain = domain;",
    "  \x7d",
    tag "for method in methods",
    "",
    tag "include \"method\"",
    "",
    tag "endfor",
    "\x7d",
    tag "if not is_es6",
    "",
    "export = " ++ put "class_name" ++ ";",
    tag "endif"]

def methodLines : List String :=
  ["  /**",
    tag "if method.summary",
    "   * " ++ put "method.summary | escape_jsdoc",
    "   *",
    tag "endif",
    "   * " ++ put "method.method" ++ " " ++ put "method.path",
    tag "for p in method.parameters",
    "   * @param " ++ put "p.name" ++ put "(\" \" ~ p.description) | escape_jsdoc if p.description",
    tag "endfor",
    tag "if method.external_docs",
    "   * @see " ++ put "method.external_docs.url",
    tag "endif",
    tag "if method.deprecated",
    "   * @deprecated",
    tag "endif",
    "   */",
    "  " ++ put "method.name" ++ "(parameters: \x7b",
    tag "for p in method.parameters",
    tag "if p.is_pattern_type",
    "    " ++ put "p.key" ++ put "p.cardinality" ++ ": \x7b [key: string]: " ++
      put "p.type_expr.inline" ++ " \x7d;",
    tag "else",
    "    " ++ put "p.key" ++ put "p.cardinality" ++ ": " ++ put "p.type_expr.inline" ++ ";",
    tag "endif",
    tag "endfor",
    "  \x7d" ++ tag "if not method.has_required_parameters" ++ " = \x7b\x7d" ++ tag "endif" ++
      "): Promise<" ++ put "method.response_type" ++ "> \x7b",
    "    const query: Record<string, unknown> = \x7b\x7d;",
    "    const headers: Record<string, string> = \x7b",
    tag "for h in method.headers",
    "      " ++ put "h.name_literal" ++ ": " ++ put "h.value_literal" ++ ",",
    tag "endfor",
    "    \x7d;",
    tag "if method.has_form_parameters",
    "    const form: Record<string, unknown> = \x7b\x7d;",
    tag "endif",
    tag "for p in method.parameters",
    tag "if p.is_query_parameter",
    tag "if p.is_singleton",
    "    query[" ++ put "p.name_literal" ++ "] = " ++ put "p.singleton_literal" ++ ";",
    tag "elif p.is_pattern_type",
    "    Object.assign(query, parameters[" ++ put "p.name_literal" ++ "]);",
    tag "else",
    "    if (parameters[" ++ put "p.name_literal" ++ "] !== undefined) \x7b",
    "      query[" ++ put "p.name_literal" ++ "] = parameters[" ++ put "p.name_literal" ++ "];",
    "    \x7d",
    tag "endif",
    tag "elif p.is_header_parameter",
    "    if (parameters[" ++ put "p.name_literal" ++ "] !== undefined) \x7b",
    "      headers[" ++ put "p.name_literal" ++ "] = String(parameters[" ++ put "p.name_literal" ++
      "]);",
    "    \x7d",
    tag "elif p.is_form_parameter",
    "    if (parameters[" ++ put "p.name_literal" ++ "] !== undefined) \x7b",
    "      form[" ++ put "p.name_literal" ++ "] = parameters[" ++ put "p.name_literal" ++ "];",
    "    \x7d",
    tag "elif p.is_path_parameter and p.is_required",
    "    if (parameters[" ++ put "p.name_literal" ++ "] === undefined) \x7b",
    "      throw new Error(" ++
      put "(\"Missing required path parameter: \" ~ p.name) | string_literal" ++ ");",
    "    \x7d",
    tag "endif",
    tag "endfor",
    "    return this.request<" ++ put "method.response_type" ++ ">(\x7b",
    "      method: '" ++ put "method.method" ++ "',",
    "      url: this.domain + `" ++ put "method.path_format_string" ++ "`,",
    "      query,",
    "      headers,",
    tag "if method.body_name_literal",
    "      body: parameters[" ++ put "method.body_name_literal" ++ "],",
    tag "endif",
    tag "if method.has_form_parameters",
    "      form,",
    tag "endif",
    tag "if method.is_secure",
    "      security: [" ++ tag "for kind in method.security_kinds" ++ "'" ++ put "kind" ++ "'" ++
      tag "if not loop.last" ++ ", " ++ tag "endif" ++ tag "endfor" ++ "],",
    tag "endif",
    "    \x7d);",
    "  \x7d"]

def typeLines : List String :=
  [tag "if definition.description",
    "/**",
    " * " ++ put "definition.description | escape_jsdoc",
    " */",
    tag "endif",
    tag "if definition.type_expr.is_object",
    "export interface " ++ put "definition.name" ++ " \x7b",
    tag "for prop in definition.type_expr.properties",
    tag "if prop.description",
    "  /** " ++ put "prop.description | escape_jsdoc" ++ " */",
    tag "endif",
    "  " ++ put "prop.key" ++ put "prop.cardinality" ++ ": " ++ put "prop.type_expr.inline" ++ ";",
    tag "endfor",
    "\x7d",
    tag "else",
    "export type " ++ put "definition.name" ++ " = " ++ put "definition.type_expr.inline" ++ ";",
    tag "endif"]

def typesWrapperLines : List String :=
  ["/* eslint-disable */",
    "/**",
    " * Types for " ++ put "module_name" ++ ".",
    " *",
    " * Generated by stg. Do not edit by hand.",
    " */",
    tag "for definition in definitions",
    "",
    tag "include \"type\"",
    "",
    tag "endfor"]

/-- The methods alone, as an object. -/
def classWrapperLines : List String :=
  ["/* eslint-disable */",
    "/**",
    " * " ++ put "module_name" ++ tag "if description" ++ ": " ++
      put "description | escape_jsdoc" ++ tag "endif",
    "",
    " *",
    " * Generated by stg. Do not edit by hand.",
    " */",
    tag "for line in imports",
    put "line",
    tag "endfor",
    tag "if has_imports",
    put "import_statement",
    tag "endif",
    "",
    tag "include \"request\"",
    "",
    "",
    "export function create" ++ put "class_name" ++ "(request: RequestFn, domain: string = " ++
      put "domain_literal" ++ ") \x7b",
    "  return \x7b",
    "    request,",
    "    domain,",
    tag "for method in methods",
    "",
    tag "include \"method\"" ++ ",",
    tag "endfor",
    "  \x7d;",
    "\x7d"]

def requestLines : List String :=
  ["export type SecurityKind = 'token' | 'apiKey' | 'basic';",
    "",
    "export interface RequestOptions \x7b",
    "  method: string;",
    "  url: string;",
    "  query: Record<string, unknown>;",
    "  headers: Record<string, string>;",
    "  body?: unknown;",
    "  form?: Record<string, unknown>;",
    "  security?: SecurityKind[];",
    "\x7d",
    "",
    "/** Performs the HTTP call; the generated code never talks to the network itself. */",
    "export type RequestFn = <T>(options: RequestOptions) => Promise<T>;"]

def builtIn : TemplateSet :=
  { client := fromLines clientLines
    method := fromLines methodLines
    type := fromLines typeLines
    typesWrapper := fromLines typesWrapperLines
    classWrapper := fromLines classWrapperLines }

def request : String := fromLines requestLines

end ApiBindings.Rendering
