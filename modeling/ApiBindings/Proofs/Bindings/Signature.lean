import ApiBindings.Proofs.Bindings.Imports
import Mathlib.Logic.Relation

/-!
The types that the signatures of the methods name. A signature writes out the
shapes of objects, but an object is no target of an import; so what stands
under a property is imported only if it is asked for elsewhere as well.
-/

namespace ApiBindings

namespace TypeExpr

def Element (t e : TypeExpr) : Prop := t.element = some e

inductive Part (t : TypeExpr) : TypeExpr → Prop
  | element {e : TypeExpr} (shown : t.Element e) : Part t e
  | property {p : Property TypeExpr} (listed : p ∈ t.properties) :
      Part t p.type

def Names (t : TypeExpr) (name : String) : Prop :=
  t.kind = .reference ∧ t.text = name

def Mentions (t : TypeExpr) (name : String) : Prop :=
  ∃ part, Relation.ReflTransGen Part t part ∧ part.Names name

/-- The mention stands under a property, that of an object at any depth. -/
def MentionsInProperty (t : TypeExpr) (name : String) : Prop :=
  ∃ owner, Relation.ReflTransGen Part t owner ∧
    ∃ p ∈ owner.properties, p.type.Mentions name

variable {t : TypeExpr} {name : String}

theorem MentionsInProperty.mentions (inside : t.MentionsInProperty name) :
    t.Mentions name := by
  obtain ⟨owner, above, p, listed, part, below, names⟩ := inside
  exact ⟨part, above.trans (.head (.property listed) below), names⟩

/-- What is not under a property is under lists and maps only. -/
theorem Mentions.cases (mentioned : t.Mentions name) :
    (∃ part, Relation.ReflTransGen Element t part ∧ part.Names name) ∨
      t.MentionsInProperty name := by
  obtain ⟨part, path, names⟩ := mentioned
  -- The first property on the way down decides, so the way is read from above.
  induction path using Relation.ReflTransGen.head_induction_on with
  | refl => exact .inl ⟨part, .refl, names⟩
  | head step rest induction =>
      cases step with
      | element shown =>
          rcases induction with ⟨last, elements, named⟩ | inside
          · exact .inl ⟨last, .head shown elements, named⟩
          · obtain ⟨owner, above, owned⟩ := inside
            exact .inr ⟨owner, .head (.element shown) above, owned⟩
      | property listed => exact .inr ⟨_, .refl, _, listed, part, rest, names⟩

end TypeExpr

namespace Conversion

variable {doc : Document} {active : List String} {s : Schema} {t : TypeExpr}
  {name : String}

/-- A reference under lists and maps is the target of the whole type. -/
theorem importTarget_of_elements {part : TypeExpr}
    (elements : Relation.ReflTransGen TypeExpr.Element t part)
    (names : part.Names name)
    (ran : (convert doc active s).result = .ok t) :
    t.importTarget = some name := by
  induction elements using Relation.ReflTransGen.head_induction_on
    generalizing s with
  | refl =>
      obtain ⟨kind, text⟩ := names
      subst text
      cases yields_of_convert ran with
      | reference => rfl
      | choice | primitive | array | map | object => cases kind
  | head shown _ induction =>
      cases yields_of_convert ran with
      | array shape element =>
          cases shown
          exact induction element
      | map shape value =>
          cases shown
          exact induction value
      | reference | choice | primitive | object => cases shown

end Conversion

def Method.Mentions (m : Method) (name : String) : Prop :=
  (∃ a ∈ m.arguments, a.type.Mentions name) ∨ m.responseImport = some name

def Method.MentionsInProperty (m : Method) (name : String) : Prop :=
  ∃ a ∈ m.arguments, a.type.MentionsInProperty name

def Bindings.SignaturesImported (b : Bindings) : Prop :=
  ∀ m ∈ b.methods, ∀ name, m.Mentions name → name ≠ "" → name ∈ b.imports

namespace Document

variable {doc : Document} {options : Options} {b : Bindings} {m : Method}
  {name : String}

theorem mem_imports (assembled : doc.Assembled options b) :
    name ∈ b.imports ↔
      name ≠ "" ∧ name ∈ doc.targetNames (doc.walk options) := by
  rw [imports_of_assembled assembled, List.mem_eraseDups, List.mem_filter]
  simp [and_comm]

theorem mem_targets_of_method (member : m ∈ b.methods)
    (target : name ∈ m.importTargets) : name ∈ b.targets :=
  List.mem_append_left _ (List.mem_flatMap.mpr ⟨m, member, target⟩)

theorem converted_of_argument {a : Argument}
    (assembled : doc.Assembled options b) (member : m ∈ b.methods)
    (taken : a ∈ m.arguments) :
    ∃ s : Schema, (s.toType doc).result = .ok a.type := by
  obtain ⟨r, _, arguments, given, rfl⟩ :=
    exists_of_mem_right assembled.methods member
  obtain ⟨p, _, t, typed, rfl⟩ := exists_of_mem_right given taken
  exact ⟨p.typeSchema, typed⟩

theorem target_or_inProperty (assembled : doc.Assembled options b)
    (member : m ∈ b.methods) (mentioned : m.Mentions name) :
    name ∈ b.targets ∨ m.MentionsInProperty name := by
  rcases mentioned with ⟨a, taken, mentioned⟩ | response
  · rcases mentioned.cases with ⟨part, elements, names⟩ | inside
    · obtain ⟨s, typed⟩ := converted_of_argument assembled member taken
      have target := Conversion.importTarget_of_elements elements names typed
      refine .inl (mem_targets_of_method member ?_)
      exact List.mem_append_left _ (List.mem_filterMap.mpr ⟨a, taken, target⟩)
    · exact .inr ⟨a, taken, inside⟩
  · refine .inl (mem_targets_of_method member ?_)
    exact List.mem_append_right _ (by simp [response])

/-- All signatures are covered by the imports if and only if the names under
properties are targets of the walk, too. -/
theorem signatures_imported_iff (ok : (doc.bindings options).result = .ok b) :
    b.SignaturesImported ↔
      ∀ m ∈ b.methods, ∀ name, m.MentionsInProperty name → name ≠ "" →
        name ∈ doc.targetNames (doc.walk options) := by
  have assembled := assembled_of_bindings ok
  constructor
  · intro imported m member name inside filled
    obtain ⟨a, taken, inside⟩ := inside
    have listed := imported m member name (.inl ⟨a, taken, inside.mentions⟩)
      filled
    exact ((mem_imports assembled).mp listed).2
  · intro covered m member name mentioned filled
    rw [mem_imports assembled]
    refine ⟨filled, ?_⟩
    rcases target_or_inProperty assembled member mentioned with target | inside
    · rwa [targets_of_assembled assembled] at target
    · exact covered m member name inside filled

def breed : Schema := .inline { type := some .string }

/-- An object that is written out where it is used, with a name inside. -/
def animal : Schema :=
  .inline
    { type := some .object
      properties := [("breed", .reference "#/definitions/Breed")] }

def admission (responses : OrderedMap String ResponseUse) : Operation :=
  { parameters :=
      [.inline { name := "animal", location := .body, schema := some animal }]
    responses }

def shelter (responses : OrderedMap String ResponseUse) : Document :=
  { version := supportedVersion
    info := { title := "Shelter", version := "1" }
    paths :=
      ⟨[("/animals",
          { operations := ⟨[(.post, admission responses)],
              by simp⟩ })],
        by simp⟩
    definitions := ⟨[("Breed", breed)], by simp⟩ }

variable {responses : OrderedMap String ResponseUse}

def animalType : TypeExpr :=
  TypeExpr.object [⟨"breed", TypeExpr.reference "Breed", true⟩]

theorem toType_animal :
    (animal.toType (shelter responses)).result = .ok animalType := by
  have found : (shelter responses).definition "#/definitions/Breed" =
      .ok ("Breed", breed) := rfl
  have named : Naming.typeName "Breed" = "Breed" := by decide
  rw [Schema.toType, Conversion.convert_of_object rfl,
    Conversion.inheritedProperties_nil, Conversion.ownProperties_cons,
    Conversion.ownProperties_nil, Conversion.convert_of_reference rfl found,
    named]
  rfl

theorem succeeds_shelter : ((shelter responses).bindings {}).Succeeds := by
  rw [succeeds_bindings]
  refine ⟨rfl, ?_, ?_⟩
  · intro r member use used
    obtain rfl : r = ⟨"/animals", .post, admission responses, []⟩ := by
      simpa [routes, shelter] using member
    obtain rfl : use = .inline
        { name := "animal", location := .body, schema := some animal } := by
      simpa [Route.uses, admission] using used
    rw [succeeds_argument]
    refine ⟨_, rfl, ?_⟩
    rintro p ⟨⟩
    exact ⟨animalType, toType_animal⟩
  · intro entry member
    obtain rfl : entry = ("Breed", breed) := by simpa [shelter] using member
    exact ⟨_, by rw [definitionType, Conversion.convert_of_primitive rfl]; rfl⟩

theorem methods_shelter (assembled : (shelter responses).Assembled {} b) :
    ∃ m a, b.methods = [m] ∧ m.arguments = [a] ∧ a.type = animalType := by
  have routes : (shelter responses).keptRoutes {} =
      [⟨"/animals", .post, admission responses, []⟩] := rfl
  have methods := assembled.methods
  rw [routes] at methods
  obtain ⟨m, _, ⟨arguments, given, rfl⟩, ⟨⟩, only⟩ :=
    List.forall₂_cons_left_iff.mp methods
  obtain ⟨a, _, ⟨t, typed, rfl⟩, ⟨⟩, rfl⟩ :=
    List.forall₂_cons_left_iff.mp given
  obtain rfl := Except.ok.inj (typed.symm.trans toType_animal)
  exact ⟨_, _, only, rfl, rfl⟩

theorem mentions_animalType : animalType.Mentions name ↔ name = "Breed" := by
  constructor
  · rintro ⟨part, path, kind, text⟩
    rcases path.cases_head with rfl | ⟨next, step, rest⟩
    · cases kind
    · cases step with
      | element shown => cases shown
      | property listed =>
          obtain rfl := List.mem_singleton.mp listed
          rcases rest.cases_head with rfl | ⟨_, deeper, _⟩
          · exact text.symm
          · cases deeper with
            | element shown => cases shown
            | property listed => cases listed
  · rintro rfl
    have step := @TypeExpr.Part.property animalType
      ⟨"breed", TypeExpr.reference "Breed", true⟩ (.head _)
    exact ⟨_, .single step, rfl, rfl⟩

/-- The response makes up for the missing import. -/
theorem shelter_imports_breed :
    ∃ b, ((shelter ⟨[("200", .inline { schema := some (.reference "Breed") })],
      by simp⟩).bindings {}).result = .ok b ∧
      b.SignaturesImported := by
  obtain ⟨b, ok⟩ := succeeds_shelter
  obtain ⟨m, a, only, taken, type⟩ :=
    methods_shelter (assembled_of_bindings ok)
  refine ⟨b, ok, (signatures_imported_iff ok).mpr ?_⟩
  rintro m' member name ⟨a', listed, inside⟩ _
  obtain rfl : m' = m := by simpa [only] using member
  obtain rfl : a' = a := by simpa [taken] using listed
  obtain rfl := mentions_animalType.mp (type ▸ inside.mentions)
  rw [mem_targetNames]
  exact ⟨.reference "Breed", .tail _ (.head _), "Breed", .reference rfl rfl,
    by decide⟩

/-- Without a response nothing asks for the name in the signature. -/
theorem shelter_lacks_an_import :
    ∃ b, ((shelter ∅).bindings {}).result = .ok b ∧
      ¬ b.SignaturesImported := by
  obtain ⟨b, ok⟩ := succeeds_shelter
  have assembled := assembled_of_bindings ok
  obtain ⟨m, a, only, taken, type⟩ := methods_shelter assembled
  have mentioned : m.Mentions "Breed" :=
    .inl ⟨a, by simp [taken], type ▸ mentions_animalType.mpr rfl⟩
  refine ⟨b, ok, fun imported => ?_⟩
  have listed := imported m (by simp [only]) "Breed" mentioned (by decide)
  have walked : (shelter ∅).walk {} = [animal, breed] := rfl
  have object : animal.nested? (shelter ∅) = none := by
    rw [Schema.nested?_eq]
    rfl
  have primitive : breed.nested? (shelter ∅) = none := by
    rw [Schema.nested?_eq]
    rfl
  rw [mem_imports assembled, walked] at listed
  simp [targetNames, object, primitive] at listed

end Document

end ApiBindings
