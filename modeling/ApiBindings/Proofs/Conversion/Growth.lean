import ApiBindings.Proofs.Conversion.Failure
import ApiBindings.Proofs.Conversion.Recursion

/-!
Documents with more definitions, and with the same ones in another order. A
conversion that succeeds has found every definition that it asked for, so it
does not notice others beside them.
-/

namespace ApiBindings

/-- What can be referred to in `doc` is the same in `other`. -/
def Document.KeptIn (doc other : Document) : Prop :=
  ∀ path entry, doc.definition path = .ok entry →
    other.definition path = .ok entry

namespace Document

variable {doc other : Document}

theorem keptIn_of_subset
    (more : doc.definitions.entries ⊆ other.definitions.entries) :
    doc.KeptIn other := by
  intro path entry found
  obtain ⟨name, body⟩ := entry
  obtain ⟨named, known⟩ := definition_eq_ok.mp found
  apply definition_eq_ok.mpr
  refine ⟨named, ?_⟩
  rw [← OrderedMap.mem_entries_iff] at known ⊢
  exact more known

theorem get?_definitions_of_perm
    (moved : doc.definitions.entries.Perm other.definitions.entries) :
    other.definitions.get? = doc.definitions.get? := by
  funext name
  apply Option.ext
  intro body
  rw [← OrderedMap.mem_entries_iff, ← OrderedMap.mem_entries_iff]
  exact moved.mem_iff.symm

theorem definition_of_perm
    (moved : doc.definitions.entries.Perm other.definitions.entries) :
    other.definition = doc.definition := by
  funext path
  unfold definition lookup
  rw [get?_definitions_of_perm moved]

end Document

namespace Conversion

variable {doc other : Document} {active : List String} {s : Schema}

/-- All that a sound schema asks a document for is there. -/
theorem level_of_keptIn {inner : Answers} (kept : doc.KeptIn other)
    (sound : ¬ Malformed doc s) :
    level other inner active s = level doc inner active s := by
  rw [malformed_iff, not_or, not_or] at sound
  obtain ⟨_, named, inherited⟩ := sound
  unfold level
  cases shape : s.shape with
  | error e => rfl
  | ok kind =>
      cases kind with
      | choice values => rfl
      | primitive p => rfl
      | array items => rfl
      | map values => rfl
      | reference path =>
          cases found : doc.definition path with
          | error e => exact absurd ⟨path, e, shape, found⟩ named
          | ok entry => simp only [found, kept path entry found]
      | object body =>
          have members : body.allOf.mapM (memberProperties other inner active) =
              body.allOf.mapM (memberProperties doc inner active) := by
            apply mapM_congr_of_mem
            intro member listed
            cases member with
            | inline body => rfl
            | reference path =>
                cases found : doc.definition path with
                | error e =>
                    exact absurd ⟨body, path, e, shape, listed, found⟩ inherited
                | ok entry =>
                    simp only [memberProperties, found, kept path entry found]
          simp only [members]

theorem succeeds_of_calls {next : List String × Schema}
    (ran : (convert doc active s).Succeeds)
    (called : Calls doc (active, s) next) :
    (convert doc next.1 next.2).Succeeds := by
  rw [succeeds_convert_iff_calls] at ran ⊢
  intro call path
  exact ran call (.head called path)

/-- The induction is on the calls: those of a conversion that succeeds succeed
as well, and so the other document answers them in the same way. -/
theorem convert_of_keptIn (kept : doc.KeptIn other)
    (ran : (convert doc active s).Succeeds) :
    convert other active s = convert doc active s := by
  generalize start : (active, s) = first
  induction first using (wellFounded_calls doc).induction generalizing active s
  next first induction =>
    subst start
    have sound : ¬ Malformed doc s := (succeeds_convert.mp ran).1
    calc
      convert other active s = level other (convert other) active s :=
        convert_eq_level other active s
      _ = level doc (convert other) active s := level_of_keptIn kept sound
      _ = level doc (convert doc) active s := by
        apply level_congr
        intro next called
        exact induction next called (succeeds_of_calls ran called) rfl
      _ = convert doc active s := (convert_eq_level doc active s).symm

/-- A type that a schema or a definition has stays the same, and so do the
messages, when definitions are added anywhere in the table. When they are only
moved the failures stay the same as well. -/
theorem types_outlast_new_definitions (doc other : Document) :
    (doc.definitions.entries ⊆ other.definitions.entries →
      (∀ (s : Schema) t, (s.toType doc).result = .ok t →
        (s.toType other).result = .ok t ∧
          (s.toType other).log = (s.toType doc).log) ∧
      ∀ name s, (name, s) ∈ doc.definitions.entries → ∀ t,
        (doc.definitionType name s).result = .ok t →
        (other.definitionType name s).result = .ok t ∧
          (other.definitionType name s).log =
            (doc.definitionType name s).log) ∧
    (doc.definitions.entries.Perm other.definitions.entries →
      (∀ s : Schema, s.toType other = s.toType doc) ∧
      ∀ name s, other.definitionType name s = doc.definitionType name s) := by
  constructor
  · intro more
    have kept := Document.keptIn_of_subset more
    constructor
    · intro s t ran
      have same : s.toType other = s.toType doc :=
        convert_of_keptIn kept ⟨t, ran⟩
      rw [same]
      exact ⟨ran, rfl⟩
    · intro name s _ t ran
      have same : other.definitionType name s = doc.definitionType name s :=
        convert_of_keptIn kept ⟨t, ran⟩
      rw [same]
      exact ⟨ran, rfl⟩
  · intro moved
    have same := convert_congr (Document.definition_of_perm moved)
    constructor
    · intro s
      exact congrFun (congrFun same []) s
    · intro name s
      exact congrFun (congrFun same [name]) s

def goat : Schema :=
  .inline
    { allOf := [.reference "#/definitions/Herd"]
      properties := [("name", .inline { type := some .string })] }

def herd : Schema :=
  .inline
    { allOf := [.reference "Goat"]
      properties := [("leader", .reference "Goat")] }

def pasture (definitions : OrderedMap String Schema) : Document :=
  { version := Document.supportedVersion
    info := { title := "Pasture", version := "1" }
    definitions }

def goatFirst : Document :=
  pasture ⟨[("Goat", goat), ("Herd", herd)], by decide⟩

def herdFirst : Document :=
  pasture ⟨[("Herd", herd), ("Goat", goat)], by decide⟩

def fenced : Document :=
  pasture
    ⟨[("Fence", .reference "Gate"), ("Herd", herd), ("Goat", goat)], by decide⟩

def goatType : TypeExpr :=
  TypeExpr.object
    [⟨"leader", .reference "Goat", true⟩, ⟨"name", .primitive "string", true⟩]

theorem convert_herd :
    (convert goatFirst ["Herd", "Goat"] herd).result =
      .ok (TypeExpr.object [⟨"leader", .reference "Goat", true⟩]) := by
  have found : goatFirst.definition "Goat" = .ok ("Goat", goat) := rfl
  have named : Naming.typeName "Goat" = "Goat" := by decide
  have again : (referencedProperties goatFirst ["Herd", "Goat"] "Goat").result =
      .ok [] := result_referencedProperties_of_active found (by decide)
  rw [herd, convert_of_object rfl, inheritedProperties_reference,
    inheritedProperties_nil, ownProperties_cons, ownProperties_nil,
    convert_of_reference rfl found, named]
  simp only [Traced.result_bind, again]
  rfl

theorem definitionType_goat :
    (goatFirst.definitionType "Goat" goat).result = .ok goatType := by
  have extended : goatFirst.definition "#/definitions/Herd" =
      .ok ("Herd", herd) := rfl
  rw [Document.definitionType, goat, convert_of_object rfl,
    inheritedProperties_reference, inheritedProperties_nil,
    referencedProperties_of_fresh extended (by decide), ownProperties_cons,
    ownProperties_nil, convert_of_primitive (s := .inline _) rfl]
  simp only [Traced.result_bind, Traced.result_map, convert_herd]
  rfl

/-- `Goat` has the same type beside a fence that has none itself. -/
theorem goat_outlasts_the_fence :
    goatFirst.definitions.entries ⊆ fenced.definitions.entries ∧
    (fenced.definitionType "Goat" goat).result = .ok goatType ∧
    goatFirst.definitions.entries.Perm herdFirst.definitions.entries ∧
    ∀ s : Schema, s.toType herdFirst = s.toType goatFirst := by
  have more : goatFirst.definitions.entries ⊆ fenced.definitions.entries := by
    intro entry listed
    rcases List.mem_cons.mp listed with rfl | later
    · exact .tail _ (.tail _ (.head _))
    · obtain rfl := List.mem_singleton.mp later
      exact .tail _ (.head _)
  have moved : goatFirst.definitions.entries.Perm
      herdFirst.definitions.entries := List.Perm.swap _ _ _
  have kept := ((types_outlast_new_definitions goatFirst fenced).1 more).2
    "Goat" goat (.head _) goatType definitionType_goat
  have same := (types_outlast_new_definitions goatFirst herdFirst).2 moved
  exact ⟨more, kept.1, moved, same.1⟩

end Conversion

end ApiBindings
