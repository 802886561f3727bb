import ApiBindings.Document.Parameter
import ApiBindings.Document.Verb

/-!
Operations and the paths that hold them.
-/

namespace ApiBindings

structure ExternalDocs where
  url : String
  description : Option String := none
  deriving DecidableEq

structure Response where
  description : Option String := none
  schema : Option Schema := none
  headers : OrderedMap String Json := ∅

inductive ResponseUse
  | reference (path : String)
  | inline (r : Response)

/-- The scopes that are needed of each scheme named. -/
abbrev Requirement := OrderedMap String (List String)

structure Operation where
  operationId : Option String := none
  summary : Option String := none
  description : Option String := none
  externalDocs : Option ExternalDocs := none
  tags : List String := []
  parameters : List ParameterUse := []
  responses : OrderedMap String ResponseUse := ∅
  produces : Option (List String) := none
  consumes : Option (List String) := none
  security : Option (List Requirement) := none
  deprecated : Option Bool := none

structure PathItem where
  parameters : List ParameterUse := []
  operations : OrderedMap Verb Operation := ∅

end ApiBindings
