import ApiBindings.Proofs.Conversion.Graph

/-!
One call of the conversion, the answers to its own calls left open. The
conversion is the only function that answers them itself.
-/

namespace ApiBindings.Conversion

/-- What is answered for the definitions being read and a schema. -/
abbrev Answers := List String → Schema → Traced ConvertError TypeExpr

def memberProperties (doc : Document) (inner : Answers) (active : List String) :
    Schema → Traced ConvertError (List (Property TypeExpr))
  | .inline body => TypeExpr.properties <$> inner active (.inline body)
  | .reference path =>
      match doc.definition path with
      | .error e => Traced.fail (.reference e)
      | .ok (name, parent) =>
          if name ∈ active then do
            Traced.note .warn
              ("allOf cycle through `" ++ name ++ "`, not inheriting again")
            return []
          else TypeExpr.properties <$> inner (name :: active) parent

def ownProperty (inner : Answers) (active required : List String)
    (entry : String × Schema) : Traced ConvertError (Property TypeExpr) :=
  (⟨entry.1, ·, !required.contains entry.1⟩) <$> inner active entry.2

def level (doc : Document) (inner : Answers) : Answers := fun active s =>
  match s.shape with
  | .error e => Traced.fail (.shape e)
  | .ok (.reference path) =>
      match doc.definition path with
      | .error e => Traced.fail (.reference e)
      | .ok (name, _) =>
          pure ((TypeExpr.reference (Naming.typeName name)).describedBy s)
  | .ok (.choice values) =>
      pure ((TypeExpr.choice (values.map Json.compact)).describedBy s)
  | .ok (.primitive p) => pure ((TypeExpr.primitive p.name).describedBy s)
  | .ok (.array items) =>
      (fun t => t.array.describedBy s) <$> inner active items
  | .ok (.map values) => (fun t => t.map.describedBy s) <$> inner active values
  | .ok (.object body) => do
      let inherited ← body.allOf.mapM (memberProperties doc inner active)
      let own ← body.properties.mapM (ownProperty inner active body.required)
      return (TypeExpr.object (inherited.flatten ++ own)).describedBy s

variable {doc doc' : Document} {active : List String} {s : Schema}

theorem referencedProperties_of_active {path name : String}
    (found : doc.definition path = .ok (name, s)) (busy : name ∈ active) :
    referencedProperties doc active path = do
      Traced.note .warn
        ("allOf cycle through `" ++ name ++ "`, not inheriting again")
      return [] := by
  rw [referencedProperties]
  split
  · simp_all
  · rename_i found'
    obtain ⟨rfl, rfl⟩ : _ = name ∧ _ = s := by simpa [found] using found'.symm
    rw [dif_pos busy]

theorem memberProperties_convert (path : String) :
    memberProperties doc (convert doc) active (.reference path) =
      referencedProperties doc active path := by
  rw [memberProperties]
  cases found : doc.definition path with
  | error e => rw [referencedProperties_of_unresolved found]
  | ok entry =>
      obtain ⟨name, parent⟩ := entry
      by_cases busy : name ∈ active
      · rw [referencedProperties_of_active found busy]
        exact if_pos busy
      · rw [referencedProperties_of_fresh found busy]
        exact if_neg busy

theorem inheritedProperties_eq_mapM (members : List Schema) :
    inheritedProperties doc active members =
      List.flatten <$>
        members.mapM (memberProperties doc (convert doc) active) := by
  induction members with
  | nil => simp [inheritedProperties_nil]
  | cons member members induction =>
      cases member with
      | inline body =>
          rw [inheritedProperties_inline, induction, List.mapM_cons,
            memberProperties]
          simp only [map_eq_pure_bind, bind_assoc, pure_bind,
            List.flatten_cons]
      | reference path =>
          rw [inheritedProperties_reference, induction, List.mapM_cons,
            memberProperties_convert]
          simp only [map_eq_pure_bind, bind_assoc, pure_bind,
            List.flatten_cons]

theorem ownProperties_eq_mapM (required : List String)
    (properties : List (String × Schema)) :
    ownProperties doc active required properties =
      properties.mapM (ownProperty (convert doc) active required) := by
  induction properties with
  | nil => simp [ownProperties_nil]
  | cons property properties induction =>
      rw [ownProperties_cons, induction, List.mapM_cons, ownProperty]
      simp only [map_eq_pure_bind, bind_assoc, pure_bind]

/-- The conversion answers its own calls. -/
theorem convert_eq_level (doc : Document) (active : List String) (s : Schema) :
    convert doc active s = level doc (convert doc) active s := by
  unfold level
  cases shape : s.shape with
  | error e => exact convert_of_malformed shape
  | ok kind =>
      cases kind with
      | reference path =>
          cases found : doc.definition path with
          | error e => simp [convert_of_unresolved shape found, found]
          | ok entry => simp [convert_of_reference shape found, found]
      | choice values => exact convert_of_choice shape
      | primitive p => exact convert_of_primitive shape
      | array items => exact convert_of_array shape
      | map values => exact convert_of_map shape
      | object body =>
          rw [convert_of_object shape, inheritedProperties_eq_mapM,
            ownProperties_eq_mapM]
          simp only [map_eq_pure_bind, bind_assoc, pure_bind]

/-- A call asks for nothing but the calls of the walk. -/
theorem level_congr {inner other : Answers}
    (same : ∀ next, Calls doc (active, s) next →
      inner next.1 next.2 = other next.1 next.2) :
    level doc inner active s = level doc other active s := by
  have part {t : Schema} (held : s.Holds t) :
      inner active t = other active t := same _ (.part held)
  unfold level
  cases shape : s.shape with
  | error e => rfl
  | ok kind =>
      cases kind with
      | reference path => rfl
      | choice values => rfl
      | primitive p => rfl
      | array items => simp only [part (.items shape)]
      | map values => simp only [part (.values shape)]
      | object body =>
          have members : body.allOf.mapM (memberProperties doc inner active) =
              body.allOf.mapM (memberProperties doc other active) := by
            apply mapM_congr_of_mem
            intro member listed
            cases member with
            | inline body =>
                simp only [memberProperties, part (.member shape listed)]
            | reference path =>
                simp only [memberProperties]
                cases found : doc.definition path with
                | error e => rfl
                | ok entry =>
                    obtain ⟨name, parent⟩ := entry
                    by_cases busy : name ∈ active
                    · simp only [busy, if_true]
                    · have extended : Extends doc s name parent :=
                        ⟨shape, listed, found⟩
                      simp only [busy, if_false, same _ (.parent extended busy)]
          have own : body.properties.mapM
                (ownProperty inner active body.required) =
              body.properties.mapM
                (ownProperty other active body.required) := by
            apply mapM_congr_of_mem
            rintro ⟨name, p⟩ listed
            simp only [ownProperty, part (.property shape listed)]
          simp only [members, own]

/-- No other function answers its own calls. -/
theorem eq_convert_of_level {answers : Answers}
    (solves : ∀ active s, answers active s = level doc answers active s) :
    answers = convert doc := by
  funext active s
  generalize start : (active, s) = first
  induction first using (wellFounded_calls doc).induction generalizing active s
  next first induction =>
    subst start
    rw [solves, convert_eq_level]
    exact level_congr fun next called => induction next called _ _ rfl

/-- A conversion reads a document only by looking up definitions. -/
theorem convert_congr (same : doc'.definition = doc.definition) :
    convert doc' = convert doc := by
  apply eq_convert_of_level
  intro active s
  rw [convert_eq_level doc']
  unfold level memberProperties
  rw [same]

end ApiBindings.Conversion
