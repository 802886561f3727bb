import ApiBindings.Bindings.Basic

/-!
Bindings in short: what the methods and types are called and what they take and give.
-/

namespace ApiBindings

def Argument.digest (a : Argument) : Json :=
  .object
    [("name", .string a.name), ("type", .string a.type.text), ("required", .bool a.required)]

def Method.digest (m : Method) : Json :=
  .object
    [("name", .string m.name), ("method", .string m.verb.name), ("path", .string m.path),
      ("response_type", .string m.responseType), ("secure", .bool m.security.isSecure),
      ("parameters", .array (m.arguments.map Argument.digest))]

def TypeDeclaration.digest (d : TypeDeclaration) : Json :=
  .object
    [("name", .string d.name), ("kind", .string d.type.kind.name), ("type", .string d.type.text)]

def Bindings.digest (b : Bindings) : List (String × Json) :=
  [("info", .object
      [("class_name", .string b.info.className), ("domain", .string b.info.domain),
        ("secure", .bool b.info.isSecure)]),
    ("methods", .array (b.methods.map Method.digest)),
    ("definitions", .array (b.definitions.map TypeDeclaration.digest)),
    ("types_to_import", .array (b.imports.map .string))]

end ApiBindings
