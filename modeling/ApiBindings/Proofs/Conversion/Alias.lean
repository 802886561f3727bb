import ApiBindings.Proofs.Conversion.Distinct
import ApiBindings.Proofs.Conversion.Failure

/-!
Definitions that only name another one. A reference is named and not followed
wherever it stands, so an object that extends such a definition gets nothing,
however long the chain of names and whatever stands at its end.
-/

namespace ApiBindings.Conversion

inductive Renames (doc : Document) (name next : String) : Prop
  | intro {path : String} {body : Schema}
      (entry : doc.definitions.get? name = some (.reference path))
      (found : doc.definition path = .ok (next, body))

structure GivesNothing (doc : Document) (call : List String × Schema) :
    Prop where
  sound : ∀ next, Relation.ReflTransGen (Calls doc) call next →
    ¬ Malformed doc next.2
  silent : ∀ name, ¬ Provides doc call name

variable {doc : Document} {active : List String} {s : Schema}
  {name next path path' first last : String}

theorem givesNothing_iff :
    GivesNothing doc (active, s) ↔
      ((convert doc active s).result.map TypeExpr.properties) = .ok [] := by
  constructor
  · intro nothing
    obtain ⟨t, ran⟩ := succeeds_convert_iff_calls.mpr nothing.sound
    have names : t.properties.map Property.name = [] := by
      apply List.eq_nil_iff_forall_not_mem.mpr
      intro name member
      exact nothing.silent name ((mem_names_iff ran).mp member)
    rw [ran, Outcome.map_ok, List.map_eq_nil_iff.mp names]
  · intro given
    obtain ⟨t, ran, none⟩ := Outcome.map_eq_ok.mp given
    refine ⟨succeeds_convert_iff_calls.mp ⟨t, ran⟩, ?_⟩
    intro name provides
    have member := (mem_names_iff ran).mpr provides
    rw [none] at member
    cases member

/-- A definition that is being read already gives nothing, like one without
properties. -/
theorem referencedProperties_eq_nil_iff
    (found : doc.definition path = .ok (name, s)) :
    (referencedProperties doc active path).result = .ok [] ↔
      name ∈ active ∨ GivesNothing doc (name :: active, s) := by
  by_cases busy : name ∈ active
  · have done := result_referencedProperties_of_active found busy
    exact iff_of_true done (.inl busy)
  · rw [referencedProperties_of_fresh found busy, Traced.result_map,
      ← givesNothing_iff]
    exact (or_iff_right busy).symm

theorem properties_of_renames (renames : Renames doc name next)
    (found : doc.definition path = .ok (name, s)) :
    (referencedProperties doc active path).result = .ok [] := by
  obtain ⟨entry, target⟩ := renames
  obtain ⟨_, same⟩ := Document.definition_eq_ok.mp found
  obtain rfl := Option.some.inj (entry.symm.trans same)
  by_cases busy : name ∈ active
  · exact result_referencedProperties_of_active found busy
  · rw [referencedProperties_of_fresh found busy,
      convert_of_reference rfl target]
    rfl

/-- Members that give the same may stand for each other in every object. -/
theorem forall_inheritedProperties_iff :
    (∀ before after,
      (inheritedProperties doc active
        (before ++ .reference path :: after)).result =
      (inheritedProperties doc active
        (before ++ .reference path' :: after)).result) ↔
      (referencedProperties doc active path).result =
        (referencedProperties doc active path').result := by
  have listed (path : String) (before after : List Schema) :
      (inheritedProperties doc active
        (before ++ .reference path :: after)).result = do
          let first ← before.mapM fun member =>
            (memberProperties doc (convert doc) active member).result
          let given ← (referencedProperties doc active path).result
          let rest ← after.mapM fun member =>
            (memberProperties doc (convert doc) active member).result
          return (first ++ given :: rest).flatten := by
    rw [inheritedProperties_eq_mapM, Traced.result_map, Traced.result_mapM,
      List.mapM_append, List.mapM_cons, memberProperties_convert]
    simp only [← Outcome.map_eq_map, map_eq_pure_bind, bind_assoc, pure_bind]
  constructor
  · intro same
    have alone := same [] []
    rw [listed, listed] at alone
    simpa only [List.mapM_nil, pure_bind, List.nil_append, List.flatten_cons,
      List.flatten_nil, List.append_nil, bind_pure] using alone
  · intro same before after
    rw [listed, listed, same]

theorem referencedProperties_congr
    (same : doc.definition path = doc.definition path') :
    referencedProperties doc active path =
      referencedProperties doc active path' := by
  rw [← memberProperties_convert, ← memberProperties_convert, memberProperties,
    memberProperties, same]

/-- A definition and the one at the end of a chain of names for it give the
same properties, in every object, exactly if there is nothing to inherit. -/
theorem renamed_inherits_alike_iff {start : Schema} {body : SchemaBody Schema}
    (chain : Relation.ReflTransGen (Renames doc) first last)
    (named : doc.definition path = .ok (first, start))
    (ends : doc.definition path' = .ok (last, .inline body)) :
    (∀ before after,
      (inheritedProperties doc active
        (before ++ .reference path :: after)).result =
      (inheritedProperties doc active
        (before ++ .reference path' :: after)).result) ↔
      first = last ∨ last ∈ active ∨
        GivesNothing doc (last :: active, .inline body) := by
  rw [forall_inheritedProperties_iff]
  obtain ⟨_, entry⟩ := Document.definition_eq_ok.mp named
  obtain ⟨_, lastEntry⟩ := Document.definition_eq_ok.mp ends
  rcases chain.cases_head with rfl | ⟨next, renames, _⟩
  · obtain rfl := Option.some.inj (entry.symm.trans lastEntry)
    rw [referencedProperties_congr (named.trans ends.symm)]
    exact iff_of_true rfl (.inl rfl)
  · have different : first ≠ last := by
      rintro rfl
      obtain ⟨reference, _⟩ := renames
      cases reference.symm.trans lastEntry
    rw [properties_of_renames renames named, eq_comm,
      referencedProperties_eq_nil_iff ends]
    exact (or_iff_right different).symm

/-- `Creature` and `Beast` are other names for `Animal`. -/
def zoo (body : SchemaBody Schema) : Document :=
  { version := Document.supportedVersion
    info := { title := "Zoo", version := "1" }
    definitions :=
      ⟨[("Animal", .inline body),
        ("Creature", .reference "#/definitions/Animal"),
        ("Beast", .reference "Creature")], by simp⟩ }

variable (body : SchemaBody Schema)

theorem creature_renames_animal : Renames (zoo body) "Creature" "Animal" :=
  @Renames.intro _ _ _ "#/definitions/Animal" (.inline body) rfl rfl

theorem beast_renames_creature : Renames (zoo body) "Beast" "Creature" :=
  @Renames.intro _ _ _ "Creature" _ rfl rfl

/-- An animal without properties. -/
theorem beast_inherits_like_animal :
    Relation.ReflTransGen (Renames (zoo {})) "Beast" "Animal" ∧
    ∀ before after,
      (inheritedProperties (zoo {}) ["Dog"]
        (before ++ .reference "Beast" :: after)).result =
      (inheritedProperties (zoo {}) ["Dog"]
        (before ++ .reference "Animal" :: after)).result := by
  have chain : Relation.ReflTransGen (Renames (zoo {})) "Beast" "Animal" :=
    .head (beast_renames_creature {}) (.single (creature_renames_animal {}))
  refine ⟨chain, ?_⟩
  apply (renamed_inherits_alike_iff chain rfl rfl).mpr
  right
  right
  rw [givesNothing_iff, convert_of_object rfl, inheritedProperties_nil,
    ownProperties_nil]
  rfl

def numbered : SchemaBody Schema :=
  { properties := [("id", .inline { type := some .integer })] }

/-- The number of an animal is lost on the way through another name. -/
theorem creature_inherits_nothing :
    Relation.ReflTransGen (Renames (zoo numbered)) "Creature" "Animal" ∧
    (zoo numbered).definitions.get? "Animal" = some (.inline numbered) ∧
    (inheritedProperties (zoo numbered) ["Dog"]
      [.reference "Creature"]).result ≠
    (inheritedProperties (zoo numbered) ["Dog"]
      [.reference "Animal"]).result := by
  have chain := creature_renames_animal numbered
  have nothing : (inheritedProperties (zoo numbered) ["Dog"]
      [.reference "Creature"]).result = .ok [] := by
    rw [inheritedProperties_reference, inheritedProperties_nil,
      Traced.result_bind, properties_of_renames chain rfl]
    rfl
  have number : (inheritedProperties (zoo numbered) ["Dog"]
      [.reference "Animal"]).result =
        .ok [⟨"id", .primitive "number", true⟩] := by
    have found : (zoo numbered).definition "Animal" =
        .ok ("Animal", .inline numbered) := rfl
    unfold numbered at found ⊢
    rw [inheritedProperties_reference, inheritedProperties_nil,
      referencedProperties_of_fresh found (by decide), convert_of_object rfl,
      inheritedProperties_nil, ownProperties_cons, ownProperties_nil,
      convert_of_primitive rfl]
    rfl
  refine ⟨.single chain, rfl, ?_⟩
  rw [nothing, number]
  intro same
  cases same

end ApiBindings.Conversion
