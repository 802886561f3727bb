import ApiBindings.Proofs.Conversion.Distinct

/-!
The names that an object requires. They are read where a property is declared:
an object that takes over a property of another one leaves it as optional as
it is there, whatever its own list says.
-/

namespace ApiBindings.Conversion

/-- Each object that a type's properties come from requires those of its own
properties that are in the list. -/
def RequiresLike (doc : Document) (call : List String × Schema)
    (required : List String) : Prop :=
  ∀ last body, Relation.ReflTransGen (Takes doc) call last →
    last.2.shape = .ok (.object body) →
      ∀ name ∈ body.properties.map Prod.fst, name ∈ required →
        name ∈ body.required

variable {doc : Document} {active required : List String} {s : Schema}
  {body : SchemaBody Schema} {t : TypeExpr}

theorem mem_ownMarks_iff {m : String × Bool} :
    m ∈ ownMarks body ↔
      m.1 ∈ body.properties.map Prod.fst ∧
        m.2 = !body.required.contains m.1 := by
  constructor
  · intro declared
    obtain ⟨entry, listed, rfl⟩ := List.mem_map.mp declared
    exact ⟨List.mem_map_of_mem listed, rfl⟩
  · intro described
    obtain ⟨declared, optional⟩ := described
    obtain ⟨entry, listed, same⟩ := List.mem_map.mp declared
    refine List.mem_map.mpr ⟨entry, listed, ?_⟩
    rw [same, ← optional]

theorem forall_shows_iff {call : List String × Schema} :
    (∀ m, Shows doc call m → m.1 ∈ required → m.2 = false) ↔
      RequiresLike doc call required := by
  constructor
  · intro settled last body path shape name declared needed
    have shows : Shows doc call (name, !body.required.contains name) :=
      ⟨path, shape, mem_ownMarks_iff.mpr ⟨declared, rfl⟩⟩
    simpa using settled _ shows needed
  · intro alike m shows needed
    obtain ⟨path, shape, declared⟩ := shows
    obtain ⟨declared, optional⟩ := mem_ownMarks_iff.mp declared
    have required := alike _ _ path shape m.1 declared needed
    simpa [required] using optional

/-- What an object requires is never optional in its type exactly if every
object that its properties come from requires it as well. -/
theorem required_not_optional_iff
    (ran : (convert doc active (.inline body)).result = .ok t) :
    (∀ p ∈ t.properties, p.name ∈ body.required → p.optional = false) ↔
      RequiresLike doc (active, .inline body) body.required := by
  calc
    _ ↔ ∀ m ∈ t.properties.map mark, m.1 ∈ body.required → m.2 = false := by
      simp only [List.forall_mem_map, mark]
    _ ↔ ∀ m, Shows doc (active, .inline body) m → m.1 ∈ body.required →
          m.2 = false := by
      simp only [mem_marks_iff ran]
    _ ↔ RequiresLike doc (active, .inline body) body.required :=
      forall_shows_iff

def badge (required : List String) : Schema :=
  .inline
    { properties := [("id", .inline { type := some .integer })]
      required }

/-- A subtype that makes the property of its base mandatory. -/
def guardBody : SchemaBody Schema :=
  { allOf := [.reference "#/definitions/Badge"]
    required := ["id"] }

def patrol (required : List String) : Document :=
  { version := Document.supportedVersion
    info := { title := "Patrol", version := "1" }
    definitions :=
      ⟨[("Badge", badge required), ("Guard", .inline guardBody)],
        by simp⟩ }

theorem definitionType_guard :
    ((patrol required).definitionType "Guard" (.inline guardBody)).result =
      .ok (TypeExpr.object
        [⟨"id", .primitive "number", !required.contains "id"⟩]) := by
  have found : (patrol required).definition "#/definitions/Badge" =
      .ok ("Badge", badge required) := rfl
  unfold guardBody
  rw [Document.definitionType, convert_of_object rfl,
    inheritedProperties_reference, inheritedProperties_nil,
    referencedProperties_of_fresh found (by decide), ownProperties_nil, badge,
    convert_of_object rfl, inheritedProperties_nil, ownProperties_cons,
    ownProperties_nil, convert_of_primitive rfl]
  rfl

/-- The base requires the name, too. -/
theorem guard_shows_its_badge :
    ∃ t, ((patrol ["id"]).definitionType "Guard" (.inline guardBody)).result =
        .ok t ∧
      t.properties.map mark = [("id", false)] ∧
      RequiresLike (patrol ["id"]) (["Guard"], .inline guardBody)
        guardBody.required := by
  have ran : (convert (patrol ["id"]) ["Guard"] (.inline guardBody)).result =
      .ok _ := definitionType_guard
  refine ⟨_, ran, rfl, ?_⟩
  exact (required_not_optional_iff ran).mp (by simp [TypeExpr.object])

/-- The base leaves the name optional, and so does the subtype. -/
theorem guard_forgets_its_badge :
    ∃ t, ((patrol []).definitionType "Guard" (.inline guardBody)).result =
        .ok t ∧
      ¬ ∀ p ∈ t.properties, p.name ∈ guardBody.required →
        p.optional = false := by
  refine ⟨_, definitionType_guard, ?_⟩
  intro settled
  have required := settled _ (.head _) (by decide)
  cases required

end ApiBindings.Conversion
