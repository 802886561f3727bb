import ApiBindings.Bindings.Basic
import ApiBindings.Document.Basic

/-!
The authentication that an operation needs: the requirements of the document and its own ones count
together.
-/

namespace ApiBindings.Security

def mergeRequirements : List Requirement → List Requirement → List (List String)
  | [], operation => operation.map OrderedMap.keys
  | document, [] => document.map OrderedMap.keys
  | d :: document, o :: operation =>
    (d.keys ++ o.keys) :: mergeRequirements document operation

def addScheme (flags : SecurityFlags) (type : SchemeType) : SecurityFlags :=
  match type with
  | .oauth2 => { flags with token := true }
  | .apiKey => { flags with apiKey := true }
  | .basic => { flags with basic := true }

/-- An operation is secure as soon as it or the document says anything on security. -/
def flags (doc : Document) (op : Operation) : SecurityFlags :=
  let start : SecurityFlags := { isSecure := doc.security.isSome || op.security.isSome }
  match doc.securityDefinitions with
  | none => start
  | some schemes =>
    let merged := mergeRequirements (doc.security.getD []) (op.security.getD [])
    schemes.entries.foldl (fun flags (name, scheme) =>
      if merged.any (·.contains name) then addScheme flags scheme.type else flags) start

end ApiBindings.Security
