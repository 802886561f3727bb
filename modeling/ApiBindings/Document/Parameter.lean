import ApiBindings.Document.Schema

/-!
Parameters of operations. Two extensions leave a parameter out of the generated code.
-/

namespace ApiBindings

inductive Location
  | body
  | path
  | query
  | header
  | form
  | other (word : String)
  deriving DecidableEq

def Location.ofWord (s : String) : Location :=
  match s with
  | "body" => .body
  | "path" => .path
  | "query" => .query
  | "header" => .header
  | "formData" => .form
  | word => .other word

structure Exclusion where
  fromBindings : Option Json := none
  proxyHeader : Option Json := none

/-- The first extension has to be `true` itself, the second one any value that holds. -/
def Exclusion.applies (e : Exclusion) : Bool :=
  (match e.fromBindings with
    | some (.bool true) => true
    | _ => false) || e.proxyHeader.any Json.isTruthy

structure Parameter where
  name : String
  location : Location
  description : Option String := none
  required : Bool := false
  schema : Option Schema := none
  type : Option SchemaType := none
  format : Option String := none
  items : Option Schema := none
  collectionFormat : Option String := none
  default : Option Json := none
  choices : List Json := []
  exclusion : Exclusion := {}
  namePattern : Option Json := none

namespace Parameter

def isExcluded (p : Parameter) : Bool := p.exclusion.applies

def pattern (p : Parameter) : Option String := p.namePattern.bind Json.asString?

/-- The schema of the values: its own one, or one made of the fields beside it. -/
def typeSchema (p : Parameter) : Schema :=
  p.schema.getD (.inline
    { type := p.type
      format := p.format
      description := p.description
      default := p.default
      items := p.items
      choices := p.choices })

end Parameter

inductive ParameterUse
  | reference (path : String) (exclusion : Exclusion)
  | inline (p : Parameter)

def ParameterUse.isExcluded : ParameterUse → Bool
  | reference _ exclusion => exclusion.applies
  | inline p => p.isExcluded

end ApiBindings
