import ApiBindings.Proofs.Bindings.Exclusion
import ApiBindings.Proofs.Bindings.PathFilter
import Mathlib.Data.List.Nodup
import Mathlib.Data.Prod.Basic

/-!
All or nothing. An assembly goes through the parameters of all operations and
then through the definitions. It gives a record of each, or the first failure.
-/

namespace ApiBindings.Document

inductive Item
  | parameter (path : String) (verb : Verb) (use : ParameterUse)
  | definition (name : String) (s : Schema)

def Item.failure? (doc : Document) : Item → Option AssemblyError
  | .parameter _ _ use => Outcome.failure? (doc.argument use).result
  | .definition name s =>
      Outcome.failure? ((doc.definitionType name s).mapError .convert).result

/-- The parameters of each operation, its own ones before those of its path, and
the definitions after all operations. -/
def items (doc : Document) : List Item :=
  (doc.paths.entries.flatMap fun (path, item) =>
    item.operations.entries.flatMap fun (verb, op) =>
      (op.parameters ++ item.parameters).map (.parameter path verb)) ++
    doc.definitions.entries.map fun (name, s) => .definition name s

variable {doc : Document} {options : Options} {b : Bindings}

theorem failure?_methodOf (r : Route) :
    Outcome.failure? (doc.methodOf options r) =
      r.uses.findSome? fun use => Outcome.failure? (doc.argument use).result := by
  rw [methodOf_eq, Outcome.failure?_map, Route.argumentsIn,
    Outcome.failure?_filterMapM]
  rfl

theorem failure?_declarationOf (entry : String × Schema) :
    Outcome.failure? (doc.declarationOf entry) =
      Item.failure? doc (.definition entry.1 entry.2) := by
  unfold declarationOf typeDeclaration Item.failure?
  rw [Traced.result_bind]
  exact Outcome.failure?_bind_ok _ _

theorem findSome?_items {α : Type} (p : Item → Option α) :
    doc.items.findSome? p =
      (doc.routes.findSome? fun r =>
          r.uses.findSome? fun use => p (.parameter r.path r.verb use)).or
        (doc.definitions.entries.findSome? fun entry =>
          p (.definition entry.1 entry.2)) := by
  unfold items routes
  simp only [List.findSome?_append, findSome?_flatMap, List.findSome?_map,
    Function.comp_def, Route.uses]

theorem failure?_bindings (options : Options)
    (version : doc.version = supportedVersion) :
    Outcome.failure? (doc.bindings options).result =
      doc.items.findSome? (Item.failure? doc) := by
  have declared (f : List TypeDeclaration → Bindings) :
      Outcome.failure? (doc.definitions.entries.mapM doc.declarationOf >>=
          fun declarations => .ok (f declarations)) =
        doc.definitions.entries.findSome? fun entry =>
          Item.failure? doc (.definition entry.1 entry.2) := by
    rw [Outcome.failure?_bind_ok, Outcome.failure?_mapM]
    simp only [failure?_declarationOf]
  rw [result_bindings, if_pos version, findSome?_items]
  refine (Outcome.failure?_bind fun methods => declared _).trans ?_
  simp only [Outcome.failure?_filterMapM, failure?_methodOf]
  rfl

theorem mem_routes {r : Route} :
    r ∈ doc.routes ↔ ∃ path item, (path, item) ∈ doc.paths.entries ∧
      ∃ verb op, (verb, op) ∈ item.operations.entries ∧
        ⟨path, verb, op, item.parameters⟩ = r := by
  simp only [routes, List.mem_flatMap, List.mem_map, Prod.exists]

end ApiBindings.Document
