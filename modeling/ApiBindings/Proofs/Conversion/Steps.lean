import ApiBindings.Conversion
import ApiBindings.Proofs.Outcome

/-!
What one call of the conversion does, shape by shape. Everything that is
proved of conversions comes from the equations of this module.
-/

namespace ApiBindings

namespace TypeExpr

def describedBy (t : TypeExpr) (s : Schema) : TypeExpr :=
  { t with description := s.description }

variable (t : TypeExpr) (s : Schema)

@[simp] theorem importTarget_describedBy :
    (t.describedBy s).importTarget = t.importTarget := rfl

end TypeExpr

theorem Document.definition_eq_ok {doc : Document} {path name : String}
    {s : Schema} :
    doc.definition path = .ok (name, s) ↔
      referenceName path "definitions" = .ok name ∧
        doc.definitions.get? name = some s := by
  unfold Document.definition Document.lookup
  rw [Outcome.bind_eq_ok]
  constructor
  · rintro ⟨found, named, looked⟩
    cases entry : doc.definitions.get? found with
    | none => simp [entry, throw, throwThe, MonadExceptOf.throw] at looked
    | some body =>
        simp only [entry, pure, Except.pure, Except.ok.injEq,
          Prod.mk.injEq] at looked
        obtain ⟨rfl, rfl⟩ := looked
        exact ⟨named, entry⟩
  · rintro ⟨named, entry⟩
    exact ⟨name, named, by simp only [entry, pure, Except.pure]⟩

namespace Conversion

inductive Yields (doc : Document) (active : List String) (s : Schema) :
    TypeExpr → Prop
  | reference {path name : String} {body : Schema}
      (shape : s.shape = .ok (.reference path))
      (found : doc.definition path = .ok (name, body)) :
      Yields doc active s
        ((TypeExpr.reference (Naming.typeName name)).describedBy s)
  | choice {values : List Json} (shape : s.shape = .ok (.choice values)) :
      Yields doc active s
        ((TypeExpr.choice (values.map Json.compact)).describedBy s)
  | primitive {p : Primitive} (shape : s.shape = .ok (.primitive p)) :
      Yields doc active s ((TypeExpr.primitive p.name).describedBy s)
  | array {items : Schema} {t : TypeExpr}
      (shape : s.shape = .ok (.array items))
      (element : (convert doc active items).result = .ok t) :
      Yields doc active s (t.array.describedBy s)
  | map {values : Schema} {t : TypeExpr}
      (shape : s.shape = .ok (.map values))
      (value : (convert doc active values).result = .ok t) :
      Yields doc active s (t.map.describedBy s)
  | object {body : SchemaBody Schema}
      {inherited own : List (Property TypeExpr)}
      (shape : s.shape = .ok (.object body))
      (parents :
        (inheritedProperties doc active body.allOf).result = .ok inherited)
      (members : (ownProperties doc active body.required
        body.properties).result = .ok own) :
      Yields doc active s ((TypeExpr.object (inherited ++ own)).describedBy s)

variable {doc : Document} {active : List String} {s : Schema}

theorem convert_of_malformed {e : ShapeError} (shape : s.shape = .error e) :
    convert doc active s = Traced.fail (.shape e) := by
  rw [convert]
  split <;> simp_all

theorem convert_of_unresolved {path : String} {e : ReferenceError}
    (shape : s.shape = .ok (.reference path))
    (missing : doc.definition path = .error e) :
    convert doc active s = Traced.fail (.reference e) := by
  rw [convert]
  split <;> simp_all

theorem convert_of_reference {path name : String} {body : Schema}
    (shape : s.shape = .ok (.reference path))
    (found : doc.definition path = .ok (name, body)) :
    convert doc active s =
      pure ((TypeExpr.reference (Naming.typeName name)).describedBy s) := by
  rw [convert]
  split <;> simp_all [TypeExpr.describedBy]

theorem convert_of_choice {values : List Json}
    (shape : s.shape = .ok (.choice values)) :
    convert doc active s =
      pure ((TypeExpr.choice (values.map Json.compact)).describedBy s) := by
  rw [convert]
  split <;> simp_all [TypeExpr.describedBy]

theorem convert_of_primitive {p : Primitive}
    (shape : s.shape = .ok (.primitive p)) :
    convert doc active s =
      pure ((TypeExpr.primitive p.name).describedBy s) := by
  rw [convert]
  split <;> simp_all [TypeExpr.describedBy]

theorem convert_of_array {items : Schema}
    (shape : s.shape = .ok (.array items)) :
    convert doc active s =
      (fun t => t.array.describedBy s) <$> convert doc active items := by
  rw [convert]
  split <;> simp_all [TypeExpr.describedBy]

theorem convert_of_map {values : Schema}
    (shape : s.shape = .ok (.map values)) :
    convert doc active s =
      (fun t => t.map.describedBy s) <$> convert doc active values := by
  rw [convert]
  split <;> simp_all [TypeExpr.describedBy]

theorem convert_of_object {body : SchemaBody Schema}
    (shape : s.shape = .ok (.object body)) :
    convert doc active s = do
      let inherited ← inheritedProperties doc active body.allOf
      let own ← ownProperties doc active body.required body.properties
      return (TypeExpr.object (inherited ++ own)).describedBy s := by
  rw [convert]
  split <;> simp_all [TypeExpr.describedBy]

theorem yields_of_convert {t : TypeExpr}
    (ran : (convert doc active s).result = .ok t) : Yields doc active s t := by
  cases shape : s.shape with
  | error e =>
      rw [convert_of_malformed shape] at ran
      cases ran
  | ok kind =>
      cases kind with
      | reference path =>
          cases found : doc.definition path with
          | error e =>
              rw [convert_of_unresolved shape found] at ran
              cases ran
          | ok entry =>
              rw [convert_of_reference shape found] at ran
              cases ran
              exact .reference shape found
      | choice values =>
          rw [convert_of_choice shape] at ran
          cases ran
          exact .choice shape
      | primitive p =>
          rw [convert_of_primitive shape] at ran
          cases ran
          exact .primitive shape
      | array items =>
          rw [convert_of_array shape, Traced.result_map,
            Outcome.map_eq_ok] at ran
          obtain ⟨t, element, rfl⟩ := ran
          exact .array shape element
      | map values =>
          rw [convert_of_map shape, Traced.result_map,
            Outcome.map_eq_ok] at ran
          obtain ⟨t, value, rfl⟩ := ran
          exact .map shape value
      | object body =>
          rw [convert_of_object shape] at ran
          simp only [Traced.result_bind, Outcome.bind_eq_ok] at ran
          obtain ⟨inherited, parents, own, members, ⟨⟩⟩ := ran
          exact .object shape parents members

theorem inheritedProperties_nil : inheritedProperties doc active [] = pure [] := by
  rw [inheritedProperties]

theorem inheritedProperties_inline (body : SchemaBody Schema)
    (members : List Schema) :
    inheritedProperties doc active (.inline body :: members) = do
      let parent ← convert doc active (.inline body)
      let rest ← inheritedProperties doc active members
      return parent.properties ++ rest := by
  rw [inheritedProperties]

theorem inheritedProperties_reference (path : String) (members : List Schema) :
    inheritedProperties doc active (.reference path :: members) = do
      let inherited ← referencedProperties doc active path
      let rest ← inheritedProperties doc active members
      return inherited ++ rest := by
  rw [inheritedProperties]

theorem referencedProperties_of_unresolved {path : String} {e : ReferenceError}
    (missing : doc.definition path = .error e) :
    referencedProperties doc active path = Traced.fail (.reference e) := by
  rw [referencedProperties]
  split <;> simp_all

theorem result_referencedProperties_of_active {path name : String}
    (found : doc.definition path = .ok (name, s)) (busy : name ∈ active) :
    (referencedProperties doc active path).result = .ok [] := by
  rw [referencedProperties]
  split
  · simp_all
  · rename_i found'
    obtain ⟨rfl, rfl⟩ : _ = name ∧ _ = s := by simpa [found] using found'.symm
    rw [dif_pos busy]
    simp

theorem referencedProperties_of_fresh {path name : String}
    (found : doc.definition path = .ok (name, s)) (fresh : name ∉ active) :
    referencedProperties doc active path =
      TypeExpr.properties <$> convert doc (name :: active) s := by
  rw [referencedProperties]
  split
  · simp_all
  · rename_i found'
    obtain ⟨rfl, rfl⟩ : _ = name ∧ _ = s := by simpa [found] using found'.symm
    rw [dif_neg fresh]
    simp

theorem ownProperties_nil (required : List String) :
    ownProperties doc active required [] = pure [] := by
  rw [ownProperties]

theorem ownProperties_cons (required : List String) (name : String)
    (s : Schema) (properties : List (String × Schema)) :
    ownProperties doc active required ((name, s) :: properties) = do
      let type ← convert doc active s
      let rest ← ownProperties doc active required properties
      return ⟨name, type, !required.contains name⟩ :: rest := by
  rw [ownProperties]

end Conversion

end ApiBindings
