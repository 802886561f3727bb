import ApiBindings.Proofs.Conversion.Steps

/-!
Which definition a type is made of: the one that its schema refers to under any
number of lists and maps, and no other.
-/

namespace ApiBindings

open Conversion

/-- Lists and maps, none or many, around a reference to a definition. -/
inductive Schema.NestOf (doc : Document) (name : String) : Schema → Prop
  | reference {s body : Schema} {path : String}
      (shape : s.shape = .ok (.reference path))
      (found : doc.definition path = .ok (name, body)) : NestOf doc name s
  | array {s items : Schema} (shape : s.shape = .ok (.array items))
      (inner : items.NestOf doc name) : NestOf doc name s
  | map {s values : Schema} (shape : s.shape = .ok (.map values))
      (inner : values.NestOf doc name) : NestOf doc name s

def Schema.nested? (doc : Document) (s : Schema) : Option String :=
  match h : s.shape with
  | .ok (.reference path) => (doc.definition path).toOption.map Prod.fst
  | .ok (.array items) =>
    have := sizeOf_of_shape_array h
    items.nested? doc
  | .ok (.map values) =>
    have := sizeOf_of_shape_map h
    values.nested? doc
  | _ => none
termination_by sizeOf s

variable {doc : Document} {active : List String} {s : Schema} {name : String}

namespace Schema

theorem nested?_eq (doc : Document) (s : Schema) :
    s.nested? doc = match s.shape with
      | .ok (.reference path) => (doc.definition path).toOption.map Prod.fst
      | .ok (.array items) => items.nested? doc
      | .ok (.map values) => values.nested? doc
      | _ => none := by
  rw [nested?]
  split <;> simp_all

theorem NestOf.nested? (nest : s.NestOf doc name) :
    s.nested? doc = some name := by
  induction nest with
  | reference shape found =>
      rw [nested?_eq, shape]
      simp [found, Except.toOption]
  | array shape _ induction =>
      rw [nested?_eq, shape]
      exact induction
  | map shape _ induction =>
      rw [nested?_eq, shape]
      exact induction

theorem NestOf.mem_keys (nest : s.NestOf doc name) :
    name ∈ doc.definitions.keys := by
  induction nest with
  | reference _ found => exact name_mem_keys found
  | array _ _ induction => exact induction
  | map _ _ induction => exact induction

theorem nestOf_of_nested? {s : Schema}
    (target : s.nested? doc = some name) : s.NestOf doc name := by
  rw [nested?_eq] at target
  cases shape : s.shape with
  | error e => simp [shape] at target
  | ok kind =>
      rw [shape] at target
      cases kind with
      | reference path =>
          cases found : doc.definition path with
          | error e => simp [found, Except.toOption] at target
          | ok entry =>
              obtain rfl : entry.1 = name := by
                simpa [found, Except.toOption] using target
              exact .reference shape found
      | array items =>
          have smaller := sizeOf_of_shape_array shape
          exact .array shape (nestOf_of_nested? target)
      | map values =>
          have smaller := sizeOf_of_shape_map shape
          exact .map shape (nestOf_of_nested? target)
      | choice values => cases target
      | primitive p => cases target
      | object body => cases target
termination_by sizeOf s

theorem nested?_eq_some : s.nested? doc = some name ↔ s.NestOf doc name :=
  ⟨nestOf_of_nested?, NestOf.nested?⟩

end Schema

namespace Conversion

/-- The target of a type is the definition under the lists and maps. -/
theorem importTarget_of_convert {s : Schema} {t : TypeExpr}
    (ran : (convert doc active s).result = .ok t) :
    t.importTarget = (s.nested? doc).map Naming.typeName := by
  rw [Schema.nested?_eq]
  cases yields_of_convert ran with
  | reference shape found =>
      simp [shape, found, Except.toOption, TypeExpr.reference]
  | choice shape => simp [shape, TypeExpr.choice]
  | primitive shape => simp [shape, TypeExpr.primitive]
  | array shape element =>
      have smaller := sizeOf_of_shape_array shape
      rw [shape]
      exact (importTarget_of_convert element :)
  | map shape value =>
      have smaller := sizeOf_of_shape_map shape
      rw [shape]
      exact (importTarget_of_convert value :)
  | object shape parents members => simp [shape, TypeExpr.object]
termination_by sizeOf s

/-- Lists and maps around a reference that resolves always have a type. -/
theorem succeeds_of_nestOf (nest : s.NestOf doc name) :
    (convert doc active s).Succeeds := by
  induction nest with
  | reference shape found =>
      rw [convert_of_reference shape found]
      exact Traced.succeeds_pure _
  | array shape _ induction =>
      rw [convert_of_array shape, Traced.succeeds_map]
      exact induction
  | map shape _ induction =>
      rw [convert_of_map shape, Traced.succeeds_map]
      exact induction

end Conversion

end ApiBindings
