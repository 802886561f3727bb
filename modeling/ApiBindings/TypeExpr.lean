import ApiBindings.Naming

/-!
Types as the generated code writes them.
-/

namespace ApiBindings

inductive TypeKind
  | reference
  | choice
  | primitive
  | array
  | map
  | object
  deriving DecidableEq

def TypeKind.name : TypeKind → String
  | reference => "ref"
  | choice => "enum"
  | primitive => "primitive"
  | array => "array"
  | map => "map"
  | object => "object"

structure Property (τ : Type) where
  name : String
  type : τ
  optional : Bool

/-- `text` is the type on its own. `importTarget` is the defined type that it is made of; a list or
a map takes it from its elements. -/
structure TypeExpr where
  text : String
  kind : TypeKind
  importTarget : Option String := none
  description : Option String := none
  properties : List (Property TypeExpr) := []
  element : Option TypeExpr := none

namespace TypeExpr

def arrayText (element : String) : String := "Array<" ++ element ++ ">"

def mapText (value : String) : String := "\x7b [key: string]: " ++ value ++ " \x7d"

def marker (optional : Bool) : String := if optional then "?" else ""

def reference (name : String) : TypeExpr :=
  { text := name, kind := .reference, importTarget := some name }

def choice (literals : List String) : TypeExpr :=
  { text := " | ".intercalate literals, kind := .choice }

def primitive (name : String) : TypeExpr := { text := name, kind := .primitive }

def array (element : TypeExpr) : TypeExpr :=
  { text := arrayText element.text
    kind := .array
    importTarget := element.importTarget
    element := some element }

def map (value : TypeExpr) : TypeExpr :=
  { text := mapText value.text
    kind := .map
    importTarget := value.importTarget
    element := some value }

def object (properties : List (Property TypeExpr)) : TypeExpr :=
  { text := "object", kind := .object, properties }

instance : Inhabited TypeExpr := ⟨primitive ""⟩

def isAtomic (t : TypeExpr) : Bool := t.kind = .primitive || t.kind = .choice

mutual
def inline : TypeExpr → String
  | ⟨text, kind, _, _, properties, element⟩ =>
    match kind, properties, element with
    | .object, p :: ps, _ => "\x7b " ++ inlineProperty p ++ inlineProperties ps ++ " \x7d"
    | .array, _, some element => arrayText element.inline
    | .map, _, some value => mapText value.inline
    | _, _, _ => text

def inlineProperty : Property TypeExpr → String
  | ⟨name, type, optional⟩ =>
    Naming.propertyKey name ++ marker optional ++ ": " ++ type.inline

def inlineProperties : List (Property TypeExpr) → String
  | [] => ""
  | p :: ps => "; " ++ inlineProperty p ++ inlineProperties ps
end

end TypeExpr

end ApiBindings
