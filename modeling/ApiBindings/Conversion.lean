import ApiBindings.Document.Reference
import ApiBindings.Log
import ApiBindings.TypeExpr

/-!
Schemas as types. References are named and not expanded; only `allOf` reads the definition that a
reference means, to take over its properties, and never one that is being read already.
-/

namespace ApiBindings

inductive ConvertError
  | reference (e : ReferenceError)
  | shape (e : ShapeError)
  | missingSchema (what : String)
  deriving DecidableEq

def ShapeError.message : ShapeError → String
  | missingItems => "array schema has no items"
  | unknownType word => "unsupported schema: type `" ++ word ++ "`"

def ConvertError.message : ConvertError → String
  | reference e => e.message
  | shape e => e.message
  | missingSchema what => "no schema to convert: " ++ what

namespace Conversion

def pending (doc : Document) (active : List String) : Nat :=
  (doc.definitions.keys.filter (· ∉ active)).length

theorem pending_cons_lt {doc : Document} {active : List String} {name : String}
    (hname : name ∈ doc.definitions.keys) (hactive : name ∉ active) :
    pending doc (name :: active) < pending doc active := by
  have hsub : doc.definitions.keys.filter (· ∉ name :: active) =
      (doc.definitions.keys.filter (· ∉ active)).filter (· ≠ name) := by
    rw [List.filter_filter]
    exact List.filter_congr fun x _ => by simp
  rw [pending, hsub, pending]
  apply List.length_filter_lt_length_iff_exists.mpr
  exact ⟨name, by simp [hname, hactive], by simp⟩

theorem name_mem_keys {doc : Document} {path name : String} {s : Schema}
    (h : doc.definition path = .ok (name, s)) : name ∈ doc.definitions.keys := by
  unfold Document.definition Document.lookup at h
  cases hname : referenceName path "definitions" with
  | error e => rw [hname] at h; exact nomatch h
  | ok n =>
    rw [hname] at h
    cases hget : doc.definitions.get? n with
    | none => simp only [bind, Except.bind, hget] at h; exact nomatch h
    | some a =>
      simp only [bind, Except.bind, hget, pure, Except.pure] at h
      cases h
      exact List.mem_map_of_mem (OrderedMap.mem_entries_of_get? hget)

theorem eq_inline_of_shape_object {s : Schema} {body : SchemaBody Schema}
    (h : s.shape = .ok (.object body)) : s = .inline body := by
  cases s with
  | reference path => simp [Schema.shape] at h
  | inline b =>
    simp only [Schema.shape, SchemaBody.shape] at h
    cases hvalues : b.mapValues? <;> rw [hvalues] at h <;>
      split at h <;> (try split at h) <;> (try split at h) <;> simp_all

theorem sizeOf_items_lt {body : SchemaBody Schema} {items : Schema}
    (h : body.items = some items) : sizeOf items < sizeOf body := by
  cases body
  simp only at h
  subst h
  simp +arith

theorem sizeOf_mapValues_lt {body : SchemaBody Schema} {values : Schema}
    (h : body.mapValues? = some values) : sizeOf values < sizeOf body := by
  cases body
  simp only [SchemaBody.mapValues?] at h
  split at h
  · split at h
    · simp_all +arith
    · simp at h
  · simp at h

theorem sizeOf_of_shape_array {s items : Schema} (h : s.shape = .ok (.array items)) :
    sizeOf items < sizeOf s := by
  cases s with
  | reference path => simp [Schema.shape] at h
  | inline b =>
    have hitems : b.items = some items := by
      simp only [Schema.shape, SchemaBody.shape] at h
      cases hvalues : b.mapValues? <;> rw [hvalues] at h <;>
        split at h <;> (try split at h) <;> (try split at h) <;> simp_all
    have := sizeOf_items_lt hitems
    simp only [Schema.inline.sizeOf_spec]
    omega

theorem sizeOf_of_shape_map {s values : Schema} (h : s.shape = .ok (.map values)) :
    sizeOf values < sizeOf s := by
  cases s with
  | reference path => simp [Schema.shape] at h
  | inline b =>
    have hvalues : b.mapValues? = some values := by
      simp only [Schema.shape, SchemaBody.shape] at h
      cases hvalues : b.mapValues? <;> rw [hvalues] at h <;>
        split at h <;> (try split at h) <;> (try split at h) <;> simp_all
    have := sizeOf_mapValues_lt hvalues
    simp only [Schema.inline.sizeOf_spec]
    omega

theorem sizeOf_of_shape_object {s : Schema} {body : SchemaBody Schema}
    (h : s.shape = .ok (.object body)) :
    sizeOf body.allOf < sizeOf s ∧ sizeOf body.properties < sizeOf s := by
  rw [eq_inline_of_shape_object h]
  cases body
  simp +arith

/-! In what follows `active` holds the definitions that are being read. -/
mutual
def convert (doc : Document) (active : List String) (s : Schema) :
    Traced ConvertError TypeExpr :=
  let converted : Traced ConvertError TypeExpr :=
    match h : s.shape with
    | .error e => Traced.fail (.shape e)
    | .ok (.reference path) =>
      match doc.definition path with
      | .error e => Traced.fail (.reference e)
      | .ok (name, _) => pure (TypeExpr.reference (Naming.typeName name))
    | .ok (.choice values) => pure (TypeExpr.choice (values.map Json.compact))
    | .ok (.primitive p) => pure (TypeExpr.primitive p.name)
    | .ok (.array items) => do
      have := sizeOf_of_shape_array h
      let element ← convert doc active items
      return TypeExpr.array element
    | .ok (.map values) => do
      have := sizeOf_of_shape_map h
      let value ← convert doc active values
      return TypeExpr.map value
    | .ok (.object body) => do
      have := sizeOf_of_shape_object h
      let inherited ← inheritedProperties doc active body.allOf
      let own ← ownProperties doc active body.required body.properties
      return TypeExpr.object (inherited ++ own)
  do
    let t ← converted
    return { t with description := s.description }
termination_by (pending doc active, sizeOf s)

def inheritedProperties (doc : Document) (active : List String) :
    List Schema → Traced ConvertError (List (Property TypeExpr))
  | [] => pure []
  | .inline body :: members => do
    let parent ← convert doc active (.inline body)
    let rest ← inheritedProperties doc active members
    return parent.properties ++ rest
  | .reference path :: members => do
    let inherited ← referencedProperties doc active path
    let rest ← inheritedProperties doc active members
    return inherited ++ rest
termination_by members => (pending doc active, sizeOf members)

/-- The properties of a definition, none if it is being read already. -/
def referencedProperties (doc : Document) (active : List String) (path : String) :
    Traced ConvertError (List (Property TypeExpr)) :=
  match h : doc.definition path with
  | .error e => Traced.fail (.reference e)
  | .ok (name, s) =>
    if hactive : name ∈ active then do
      Traced.note .warn ("allOf cycle through `" ++ name ++ "`, not inheriting again")
      return []
    else do
      have := pending_cons_lt (name_mem_keys h) hactive
      let parent ← convert doc (name :: active) s
      return parent.properties
termination_by (pending doc active, 0)

def ownProperties (doc : Document) (active : List String) (required : List String) :
    List (String × Schema) → Traced ConvertError (List (Property TypeExpr))
  | [] => pure []
  | (name, s) :: properties => do
    let type ← convert doc active s
    let rest ← ownProperties doc active required properties
    return ⟨name, type, !required.contains name⟩ :: rest
termination_by properties => (pending doc active, sizeOf properties)
end

end Conversion

namespace Schema

def toType (doc : Document) (s : Schema) : Traced ConvertError TypeExpr :=
  Conversion.convert doc [] s

end Schema

/-- The type of a definition, which never inherits from itself. -/
def Document.definitionType (doc : Document) (name : String) (s : Schema) :
    Traced ConvertError TypeExpr :=
  Conversion.convert doc [name] s

end ApiBindings
