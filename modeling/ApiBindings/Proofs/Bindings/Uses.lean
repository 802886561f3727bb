import ApiBindings.Proofs.Bindings.Assembly
import ApiBindings.Proofs.Conversion.Recursion

/-!
What an assembly reads of its document. Types and responses are read from the
definitions and the shared responses alone; the uses of parameters have an
effect on the arguments of the routes only.
-/

namespace ApiBindings.Document

def argumentOf (doc : Document) (use : ParameterUse) :
    Except AssemblyError (Option Argument) :=
  (doc.argument use).result

def Route.argumentsIn (doc : Document) (r : Route) :
    Except AssemblyError (List Argument) :=
  r.uses.filterMapM doc.argumentOf

variable {doc : Document} {options : Options}

/-- The arguments of a route come first; a route that is left out has them
built as well. -/
theorem methodOf_eq (r : Route) :
    doc.methodOf options r =
      (r.argumentsIn doc).map fun arguments =>
        if r.isKept options then some (r.toMethod doc options arguments)
        else none := by
  rw [result_method, Traced.result_mapM]
  change (r.uses.mapM doc.argumentOf).map _ = _
  rw [Route.argumentsIn, ← filterMap_mapM]
  cases r.uses.mapM doc.argumentOf <;> rfl

abbrev withUses (doc : Document) (paths : OrderedMap String PathItem)
    (shared : OrderedMap String Parameter) : Document :=
  { doc with paths := paths, parameters := shared }

variable {paths : OrderedMap String PathItem}
  {shared : OrderedMap String Parameter}

theorem convert_withUses :
    Conversion.convert (doc.withUses paths shared) = Conversion.convert doc :=
  Conversion.convert_congr rfl

theorem keptParameter_withUses (use : ParameterUse) :
    (doc.withUses paths doc.parameters).keptParameter use =
      doc.keptParameter use := rfl

theorem argumentOf_withUses {use : ParameterUse}
    (same : (doc.withUses paths shared).keptParameter use =
      doc.keptParameter use) :
    (doc.withUses paths shared).argumentOf use = doc.argumentOf use := by
  rw [argumentOf, argumentOf, result_argument, result_argument, same]
  simp only [Schema.toType, convert_withUses]

theorem responseOf_withUses (op : Operation) :
    (doc.withUses paths shared).responseOf options op =
      doc.responseOf options op := by
  have same : (doc.withUses paths shared).successSchema op =
      doc.successSchema op := rfl
  simp only [responseOf, successType, same, Schema.toType, convert_withUses]

theorem toMethod_withUses (r : Route) (arguments : List Argument) :
    r.toMethod (doc.withUses paths shared) options arguments =
      r.toMethod doc options arguments := by
  simp only [Route.toMethod, responseOf_withUses]
  rfl

theorem argumentsIn_withPaths (r : Route) :
    r.argumentsIn (doc.withUses paths doc.parameters) = r.argumentsIn doc := by
  apply filterMapM_congr_of_mem
  intro use _
  exact argumentOf_withUses (keptParameter_withUses use)

theorem methodOf_withPaths (r : Route) :
    (doc.withUses paths doc.parameters).methodOf options r =
      doc.methodOf options r := by
  simp only [methodOf_eq, argumentsIn_withPaths, toMethod_withUses]

theorem declarationOf_withUses :
    (doc.withUses paths shared).declarationOf = doc.declarationOf := by
  funext entry
  simp only [declarationOf, typeDeclaration, definitionType, convert_withUses]

/-- Other uses of parameters have an effect on the methods only. -/
theorem result_bindings_withUses
    (same : (doc.withUses paths shared).routes.filterMapM
        ((doc.withUses paths shared).methodOf options) =
      doc.routes.filterMapM (doc.methodOf options)) :
    ((doc.withUses paths shared).bindings options).result =
      (doc.bindings options).result := by
  have info : (doc.withUses paths shared).bindingsInfo options =
      doc.bindingsInfo options := rfl
  simp only [result_bindings, same, declarationOf_withUses, info]

end ApiBindings.Document
