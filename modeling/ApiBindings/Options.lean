/-!
Options that steer the assembly of bindings.
-/

namespace ApiBindings

structure Options where
  className : String := "Api"
  moduleName : String := "api"
  /-- Keeps only the operations whose path starts with this segment. -/
  pathFilter : Option String := none
  isEs6 : Bool := true
  imports : List String := []
  /-- The type of a response that has no type of its own. -/
  defaultResponseType : String := "void"
  deriving DecidableEq

end ApiBindings
