import ApiBindings.Proofs.Bindings.Signature
import ApiBindings.Proofs.Conversion.Recursion

/-!
Names in finished bindings. Each part of a converted type is itself the type of
a schema, also where it was taken over from a definition; so a name in it is
that of a definition, and all definitions are declared.
-/

namespace ApiBindings

namespace Conversion

variable {doc : Document} {active : List String} {s : Schema} {t : TypeExpr}
  {p : Property TypeExpr}

theorem call_of_inherited {body : SchemaBody Schema}
    {inherited : List (Property TypeExpr)}
    (shape : s.shape = .ok (.object body))
    (parents : (inheritedProperties doc active body.allOf).result =
      .ok inherited) (listed : p ∈ inherited) :
    ∃ next u, Calls doc (active, s) next ∧
      (convert doc next.1 next.2).result = .ok u ∧ p ∈ u.properties := by
  rw [inheritedProperties_eq_mapM, Traced.result_map,
    Outcome.map_eq_ok] at parents
  obtain ⟨lists, ran, rfl⟩ := parents
  obtain ⟨given, member, listed⟩ := List.mem_flatten.mp listed
  obtain ⟨parent, inAllOf, gave⟩ :=
    exists_of_mem_right (Traced.result_mapM_eq_ok.mp ran) member
  cases parent with
  | inline written =>
      rw [memberProperties, Traced.result_map, Outcome.map_eq_ok] at gave
      obtain ⟨u, converted, rfl⟩ := gave
      exact ⟨_, u, .part (.member shape inAllOf), converted, listed⟩
  | reference path =>
      rw [memberProperties_convert] at gave
      cases found : doc.definition path with
      | error e =>
          rw [referencedProperties_of_unresolved found] at gave
          cases gave
      | ok entry =>
          by_cases busy : entry.1 ∈ active
          · rw [result_referencedProperties_of_active found busy] at gave
            cases gave
            cases listed
          · rw [referencedProperties_of_fresh found busy, Traced.result_map,
              Outcome.map_eq_ok] at gave
            obtain ⟨u, converted, rfl⟩ := gave
            have extended : Extends doc s entry.1 entry.2 :=
              ⟨shape, inAllOf, found⟩
            exact ⟨_, u, .parent extended busy, converted, listed⟩

theorem call_of_own {body : SchemaBody Schema} {own : List (Property TypeExpr)}
    (shape : s.shape = .ok (.object body))
    (members : (ownProperties doc active body.required
      body.properties).result = .ok own) (listed : p ∈ own) :
    ∃ next, Calls doc (active, s) next ∧
      (convert doc next.1 next.2).result = .ok p.type := by
  rw [ownProperties_eq_mapM] at members
  obtain ⟨entry, inBody, gave⟩ :=
    exists_of_mem_right (Traced.result_mapM_eq_ok.mp members) listed
  rw [ownProperty, Traced.result_map, Outcome.map_eq_ok] at gave
  obtain ⟨u, converted, rfl⟩ := gave
  exact ⟨(active, entry.2), .part (.property shape inBody), converted⟩

/-- However far a property was handed down, its type is that of a schema. -/
theorem converted_of_property (ran : (convert doc active s).result = .ok t)
    (listed : p ∈ t.properties) :
    ∃ reading source, (convert doc reading source).result = .ok p.type := by
  -- What is taken over is no part of the schema: the induction is on the calls.
  generalize start : (active, s) = first
  induction first using (wellFounded_calls doc).induction
    generalizing active s t
  next first induction =>
    subst start
    cases yields_of_convert ran with
    | reference | choice | primitive | array | map => cases listed
    | object shape parents members =>
        rcases List.mem_append.mp listed with handed | own
        · obtain ⟨next, u, called, converted, deeper⟩ :=
            call_of_inherited shape parents handed
          exact induction next called converted deeper rfl
        · obtain ⟨next, _, converted⟩ := call_of_own shape members own
          exact ⟨next.1, next.2, converted⟩

theorem converted_of_part {part : TypeExpr}
    (path : Relation.ReflTransGen TypeExpr.Part t part)
    (ran : (convert doc active s).result = .ok t) :
    ∃ reading source, (convert doc reading source).result = .ok part := by
  induction path with
  | refl => exact ⟨active, s, ran⟩
  | tail _ step induction =>
      obtain ⟨reading, source, ran⟩ := induction
      cases step with
      | property listed => exact converted_of_property ran listed
      | element shown =>
          cases yields_of_convert ran with
          | reference | choice | primitive | object => cases shown
          | array shape converted =>
              cases shown
              exact ⟨reading, _, converted⟩
          | map shape converted =>
              cases shown
              exact ⟨reading, _, converted⟩

theorem named_of_reference (ran : (convert doc active s).result = .ok t)
    (kind : t.kind = .reference) :
    t.importTarget = some t.text ∧
      ∃ name ∈ doc.definitions.keys, Naming.typeName name = t.text := by
  cases yields_of_convert ran with
  | reference shape found => exact ⟨rfl, _, name_mem_keys found, rfl⟩
  | choice | primitive | array | map | object => cases kind

end Conversion

namespace Bindings

def types (b : Bindings) : List TypeExpr :=
  b.methods.flatMap (·.arguments.map (·.type)) ++ b.definitions.map (·.type)

def Defines (b : Bindings) (name : String) : Prop :=
  ∃ d ∈ b.definitions, d.name = name

end Bindings

namespace Document

variable {doc : Document} {options : Options} {b : Bindings}

theorem converted_of_type {t : TypeExpr} (assembled : doc.Assembled options b)
    (listed : t ∈ b.types) :
    ∃ active s, (Conversion.convert doc active s).result = .ok t := by
  rcases List.mem_append.mp listed with signature | declared
  · obtain ⟨m, member, signature⟩ := List.mem_flatMap.mp signature
    obtain ⟨a, taken, rfl⟩ := List.mem_map.mp signature
    obtain ⟨s, typed⟩ := converted_of_argument assembled member taken
    exact ⟨[], s, typed⟩
  · obtain ⟨d, member, rfl⟩ := List.mem_map.mp declared
    obtain ⟨entry, _, t, typed, rfl⟩ :=
      exists_of_mem_right assembled.definitions member
    exact ⟨[entry.1], entry.2, typed⟩

/-- Every reference in the types of finished bindings, at any depth, has a
declared type as its text and as its target, and so has every response import,
whichever routes the options leave out. -/
theorem references_are_defined (ok : (doc.bindings options).result = .ok b) :
    (∀ t ∈ b.types, ∀ part, Relation.ReflTransGen TypeExpr.Part t part →
      part.kind = .reference →
        part.importTarget = some part.text ∧ b.Defines part.text) ∧
    ∀ m ∈ b.methods, ∀ name, m.responseImport = some name →
      b.Defines name := by
  have assembled := assembled_of_bindings ok
  constructor
  · intro t listed part path kind
    obtain ⟨active, s, ran⟩ := converted_of_type assembled listed
    obtain ⟨reading, source, ran⟩ := Conversion.converted_of_part path ran
    obtain ⟨target, name, key, text⟩ := Conversion.named_of_reference ran kind
    refine ⟨target, ?_⟩
    rw [Bindings.Defines, ← List.mem_map, declared_names assembled, ← text]
    exact List.mem_map_of_mem key
  · intro m member name response
    have target : name ∈ b.targets :=
      mem_targets_of_method member (List.mem_append_right _ (by simp [response]))
    rw [targets_of_assembled assembled] at target
    exact declared_of_target assembled target

def owner : Schema := .inline { type := some .string }

def owned : Schema :=
  .inline { properties := [("owner", .reference "#/definitions/Owner")] }

/-- Says nothing of its own about the owner. -/
def hound : Schema := .inline { allOf := [.reference "Pet"] }

def owners : Schema :=
  .inline { type := some .array, items := some (.reference "Owner") }

def kennel : Document :=
  { version := supportedVersion
    info := { title := "Kennel", version := "1" }
    paths :=
      ⟨[("/owners",
          { parameters :=
              [.inline
                { name := "owners", location := .body, schema := some owners }]
            operations := ⟨[(.put, {})], by decide⟩ })],
        by decide⟩
    definitions :=
      ⟨[("Owner", owner), ("Pet", owned), ("Hound", hound)], by decide⟩ }

def houndType : TypeExpr :=
  TypeExpr.object [⟨"owner", .reference "Owner", true⟩]

theorem definitionType_hound :
    (kennel.definitionType "Hound" hound).result = .ok houndType := by
  have named : Naming.typeName "Owner" = "Owner" := by decide
  have parent : kennel.definition "Pet" = .ok ("Pet", owned) := rfl
  have found : kennel.definition "#/definitions/Owner" =
      .ok ("Owner", owner) := rfl
  rw [definitionType, Conversion.convert_of_object rfl,
    Conversion.inheritedProperties_reference,
    Conversion.referencedProperties_of_fresh parent (by decide),
    Conversion.convert_of_object rfl, Conversion.inheritedProperties_nil,
    Conversion.ownProperties_cons, Conversion.ownProperties_nil,
    Conversion.inheritedProperties_nil, Conversion.ownProperties_nil,
    Conversion.convert_of_reference rfl found, named]
  rfl

theorem succeeds_kennel (options : Options) :
    (kennel.bindings options).Succeeds := by
  have reference : Schema.NestOf kennel "Owner" (.reference "Owner") :=
    .reference rfl rfl
  have pointer : Schema.NestOf kennel "Owner"
      (.reference "#/definitions/Owner") := .reference rfl rfl
  rw [succeeds_bindings]
  refine ⟨rfl, ?_, ?_⟩
  · intro r member use used
    obtain rfl := List.mem_singleton.mp member
    obtain rfl := List.mem_singleton.mp used
    rw [succeeds_argument]
    refine ⟨_, rfl, ?_⟩
    rintro p ⟨⟩
    exact Conversion.succeeds_of_nestOf (.array rfl reference)
  · intro entry member
    simp only [kennel, List.mem_cons, List.not_mem_nil, or_false] at member
    rcases member with rfl | rfl | rfl
    · rw [definitionType, Conversion.convert_of_primitive rfl]
      exact Traced.succeeds_pure _
    · rw [definitionType, Conversion.convert_of_object rfl,
        Traced.succeeds_both, Conversion.ownProperties_cons,
        Traced.succeeds_both, Conversion.inheritedProperties_nil,
        Conversion.ownProperties_nil]
      exact ⟨Traced.succeeds_pure _, Conversion.succeeds_of_nestOf pointer,
        Traced.succeeds_pure _⟩
    · exact ⟨_, definitionType_hound⟩

/-- The reference stands in a type that only inherits it, and the route that
names its definition is left out. -/
theorem kennel_defines_owner :
    ∃ b, (kennel.bindings { pathFilter := some "hounds" }).result = .ok b ∧
      houndType ∈ b.types ∧ b.Defines "Owner" := by
  obtain ⟨b, ok⟩ := succeeds_kennel { pathFilter := some "hounds" }
  have listed : ("Hound", hound) ∈ kennel.definitions.entries :=
    .tail _ (.tail _ (.head _))
  obtain ⟨d, declared, t, typed, rfl⟩ :=
    exists_of_mem_left (assembled_of_bindings ok).definitions listed
  obtain rfl := Except.ok.inj (typed.symm.trans definitionType_hound)
  have shown : houndType ∈ b.types :=
    List.mem_append_right _ (List.mem_map.mpr ⟨_, declared, rfl⟩)
  have inside := @TypeExpr.Part.property houndType _ List.mem_cons_self
  obtain ⟨_, defined⟩ :=
    (references_are_defined ok).1 _ shown _ (.single inside) rfl
  exact ⟨b, ok, shown, defined⟩

end Document

end ApiBindings
