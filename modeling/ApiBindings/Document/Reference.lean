import ApiBindings.Document.Basic

/-!
References into the shared tables of a document. A look-up makes one step: a reference that it finds
is not followed.
-/

namespace ApiBindings

inductive ReferenceError
  | invalid (path : String)
  | otherSection (expected found path : String)
  | notFound (path : String)
  deriving DecidableEq

def ReferenceError.message : ReferenceError → String
  | invalid path => "invalid reference format: " ++ path
  | otherSection expected found path =>
    "invalid reference format: expected section '" ++ expected ++ "', got '" ++ found ++ "' in " ++
      path
  | notFound path => "reference target not found: " ++ path

/-- The name in a reference such as `#/definitions/Pet`, where `table` is where it has to point
to. A text without `/` and `#` is a name. -/
def referenceName (path table : String) : Except ReferenceError String :=
  let cs := path.toList
  if !cs.contains '/' && !cs.contains '#' then
    if path = "" then .error (.invalid path) else .ok path
  else
    match (Text.dropPrefix? ['#', '/'] cs).bind (Text.cutAt? '/') with
    | none => .error (.invalid path)
    | some (found, name) =>
      if String.ofList found ≠ table then
        .error (.otherSection table (String.ofList found) path)
      else if name.isEmpty then .error (.invalid path)
      else .ok (String.ofList name)

namespace Document

def lookup {α : Type} (entries : OrderedMap String α) (table path : String) :
    Except ReferenceError (String × α) := do
  let name ← referenceName path table
  match entries.get? name with
  | some a => return (name, a)
  | none => throw (.notFound path)

def definition (d : Document) (path : String) : Except ReferenceError (String × Schema) :=
  lookup d.definitions "definitions" path

def parameter (d : Document) (path : String) : Except ReferenceError Parameter :=
  (lookup d.parameters "parameters" path).map (·.2)

def response (d : Document) (path : String) : Except ReferenceError Response :=
  (lookup d.responses "responses" path).map (·.2)

end Document

end ApiBindings
