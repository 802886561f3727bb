import ApiBindings.Proofs.Conversion.Graph
import ApiBindings.Proofs.Tables

/-!
When a conversion fails: exactly if it can read a malformed schema. The stack
of the definitions being read cuts the walk short, but it hides nothing, since
what follows a second entry into a definition follows the first one too.
-/

namespace ApiBindings.Conversion

inductive Malformed (doc : Document) : Schema → Prop
  | unresolved {path : String} {e : ReferenceError}
      (missing : doc.definition path = .error e) :
      Malformed doc (.reference path)
  | noItems {body : SchemaBody Schema} (plain : body.choices = [])
      (type : body.type = some .array) (items : body.items = none) :
      Malformed doc (.inline body)
  | unknownType {body : SchemaBody Schema} {word : String}
      (plain : body.choices = []) (type : body.type = some (.unknown word)) :
      Malformed doc (.inline body)
  | unresolvedParent {s : Schema} {body : SchemaBody Schema} {path : String}
      {e : ReferenceError} (shape : s.shape = .ok (.object body))
      (listed : .reference path ∈ body.allOf)
      (missing : doc.definition path = .error e) : Malformed doc s

variable {doc : Document} {active : List String} {s t : Schema}

theorem eq_reference_of_shape {path : String}
    (shape : s.shape = .ok (.reference path)) : s = .reference path := by
  cases s with
  | reference other => simpa [Schema.shape] using shape
  | inline body =>
      simp only [Schema.shape, SchemaBody.shape] at shape
      cases values : body.mapValues? <;> simp only [values] at shape <;>
        split at shape <;> (try split at shape) <;> (try split at shape) <;>
        simp_all

theorem malformed_of_shape_error {e : ShapeError}
    (shape : s.shape = .error e) : Malformed doc s := by
  cases s with
  | reference path => simp [Schema.shape] at shape
  | inline body =>
      simp only [Schema.shape, SchemaBody.shape] at shape
      split at shape
      next plain =>
        have plain : body.choices = [] := List.isEmpty_iff.mp plain
        split at shape
        case h_6 type =>
          split at shape
          · cases shape
          · rename_i items
            exact .noItems plain type items
        case h_7 type => exact .unknownType plain type
        all_goals cases shape
      next => cases shape

theorem malformed_iff :
    Malformed doc s ↔
      (∃ e, s.shape = .error e) ∨
      (∃ path e, s.shape = .ok (.reference path) ∧
        doc.definition path = .error e) ∨
      ∃ body path e, s.shape = .ok (.object body) ∧
        .reference path ∈ body.allOf ∧ doc.definition path = .error e := by
  constructor
  · intro malformed
    cases malformed with
    | unresolved missing => exact .inr (.inl ⟨_, _, rfl, missing⟩)
    | noItems plain type items =>
        exact .inl ⟨.missingItems, by
          simp [Schema.shape, SchemaBody.shape, plain, type, items]⟩
    | @unknownType _ word plain type =>
        exact .inl ⟨.unknownType word, by
          simp [Schema.shape, SchemaBody.shape, plain, type]⟩
    | unresolvedParent shape listed missing =>
        exact .inr (.inr ⟨_, _, _, shape, listed, missing⟩)
  · rintro (⟨e, shape⟩ | ⟨path, e, shape, missing⟩ |
      ⟨body, path, e, shape, listed, missing⟩)
    · exact malformed_of_shape_error shape
    · rw [eq_reference_of_shape shape]
      exact .unresolved missing
    · exact .unresolvedParent shape listed missing

/-- What a list of `allOf` members needs in order to be converted. -/
theorem succeeds_inheritedProperties {members : List Schema} :
    (inheritedProperties doc active members).Succeeds ↔
      (∀ body, .inline body ∈ members →
        (convert doc active (.inline body)).Succeeds) ∧
      ∀ path, .reference path ∈ members →
        (referencedProperties doc active path).Succeeds := by
  induction members with
  | nil => simp [inheritedProperties_nil]
  | cons member members induction =>
      cases member with
      | inline body =>
          rw [inheritedProperties_inline, Traced.succeeds_both, induction]
          simp [or_imp, forall_and, and_assoc]
      | reference path =>
          rw [inheritedProperties_reference, Traced.succeeds_both, induction]
          simp [or_imp, forall_and, and_left_comm]

theorem succeeds_ownProperties {required : List String}
    {properties : List (String × Schema)} :
    (ownProperties doc active required properties).Succeeds ↔
      ∀ name p, (name, p) ∈ properties → (convert doc active p).Succeeds := by
  induction properties with
  | nil => simp [ownProperties_nil]
  | cons property properties induction =>
      obtain ⟨name, p⟩ := property
      rw [ownProperties_cons, Traced.succeeds_both, induction]
      simp [or_imp, forall_and]

theorem succeeds_referencedProperties {path : String} :
    (referencedProperties doc active path).Succeeds ↔
      (∀ e, doc.definition path ≠ .error e) ∧
      ∀ name parent, doc.definition path = .ok (name, parent) →
        name ∉ active → (convert doc (name :: active) parent).Succeeds := by
  cases found : doc.definition path with
  | error e => simp [referencedProperties_of_unresolved found]
  | ok entry =>
      obtain ⟨name, parent⟩ := entry
      by_cases busy : name ∈ active
      · have done := result_referencedProperties_of_active found busy
        simp [Traced.Succeeds, done, busy]
      · rw [referencedProperties_of_fresh found busy]
        simp [busy]

theorem succeeds_convert :
    (convert doc active s).Succeeds ↔
      ¬ Malformed doc s ∧
      (∀ t, s.Holds t → (convert doc active t).Succeeds) ∧
      ∀ name parent, Extends doc s name parent → name ∉ active →
        (convert doc (name :: active) parent).Succeeds := by
  simp only [malformed_iff, Schema.holds_iff, extends_iff]
  cases shape : s.shape with
  | error e => simp [convert_of_malformed shape]
  | ok kind =>
      cases kind with
      | reference path =>
          cases found : doc.definition path with
          | error e => simp [convert_of_unresolved shape found, found]
          | ok entry => simp [convert_of_reference shape found, found]
      | choice values => simp [convert_of_choice shape]
      | primitive p => simp [convert_of_primitive shape]
      | array items => simp [convert_of_array shape]
      | map values => simp [convert_of_map shape]
      | object body =>
          rw [convert_of_object shape, Traced.succeeds_both,
            succeeds_inheritedProperties, succeeds_ownProperties]
          simp only [succeeds_referencedProperties]
          constructor
          · rintro ⟨⟨members, parents⟩, properties⟩
            refine ⟨?_, ?_, ?_⟩
            · rintro (⟨e, ⟨⟩⟩ | ⟨_, _, ⟨⟩, _⟩ |
                ⟨_, path, e, ⟨⟩, listed, missing⟩)
              exact (parents path listed).1 e missing
            · rintro t (⟨member, listed, rfl⟩ | ⟨name, listed⟩)
              · exact members member listed
              · exact properties name t listed
            · rintro name parent ⟨path, listed, found⟩ fresh
              exact (parents path listed).2 name parent found fresh
          · rintro ⟨sound, parts, parents⟩
            refine ⟨⟨?_, ?_⟩, ?_⟩
            · intro member listed
              exact parts _ (.inl ⟨member, listed, rfl⟩)
            · intro path listed
              constructor
              · intro e missing
                exact sound (.inr (.inr ⟨_, path, e, rfl, listed, missing⟩))
              · intro name parent found fresh
                exact parents name parent ⟨path, listed, found⟩ fresh
            · intro name p listed
              exact parts p (.inr ⟨name, listed⟩)

/-- The step lemma carried along the whole walk. -/
theorem succeeds_convert_iff_calls :
    (convert doc active s).Succeeds ↔
      ∀ call, Relation.ReflTransGen (Calls doc) (active, s) call →
        ¬ Malformed doc call.2 := by
  generalize start : (active, s) = first
  induction first using (wellFounded_calls doc).induction generalizing active s
  next first induction =>
    subst start
    rw [succeeds_convert]
    constructor
    · rintro ⟨sound, parts, parents⟩ call path
      rcases path.cases_head with rfl | ⟨next, step, rest⟩
      · exact sound
      · refine (induction next step rfl).mp ?_ call rest
        cases step with
        | part held => exact parts _ held
        | parent extended fresh => exact parents _ _ extended fresh
    · intro sound
      have called (next) (step : Calls doc (active, s) next) :
          (convert doc next.1 next.2).Succeeds :=
        (induction next step rfl).mpr fun call rest =>
          sound call (.head step rest)
      refine ⟨sound _ .refl, ?_, ?_⟩
      · intro t held
        exact called _ (.part held)
      · intro name parent extended fresh
        exact called _ (.parent extended fresh)

/-- A walk from the body of a definition need not enter that definition: the
part after the last entry starts at the same body. -/
theorem readsOutside_cons_of_body {blocked : List String} {name : String}
    (entry : doc.definitions.get? name = some s)
    (path : Relation.ReflTransGen (ReadsOutside doc blocked) s t) :
    Relation.ReflTransGen (ReadsOutside doc (name :: blocked)) s t := by
  -- Read from its start the walk is cut at every entry, so the last one counts.
  induction path with
  | refl => exact .refl
  | tail _ step induction =>
      cases step with
      | part held => exact induction.tail (.part held)
      | @parent other extended free =>
          by_cases again : other = name
          · subst again
            obtain rfl := Option.some.inj (entry.symm.trans extended.entry)
            exact .refl
          · exact induction.tail (.parent extended (by simp [again, free]))

/-- Every walk outside the definitions being read is one of the conversion. -/
theorem calls_of_readsOutside
    (path : Relation.ReflTransGen (ReadsOutside doc active) s t) :
    ∃ reading, Relation.ReflTransGen (Calls doc) (active, s) (reading, t) := by
  generalize start : (active, s) = first
  induction first using (wellFounded_calls doc).induction generalizing active s
  next first induction =>
    subst start
    rcases path.cases_head with rfl | ⟨next, step, rest⟩
    · exact ⟨active, .refl⟩
    · cases step with
      | part held =>
          have called : Calls doc (active, s) (active, next) := .part held
          obtain ⟨reading, onward⟩ := induction _ called rest rfl
          exact ⟨reading, .head called onward⟩
      | parent extended free =>
          have called := Calls.parent extended free
          -- The rest may enter this definition again, which a call does not.
          have outside := readsOutside_cons_of_body extended.entry rest
          obtain ⟨reading, onward⟩ := induction _ called outside rfl
          exact ⟨reading, .head called onward⟩

theorem reads_of_calls {first last : List String × Schema}
    (path : Relation.ReflTransGen (Calls doc) first last) :
    Relation.ReflTransGen (Reads doc) first.2 last.2 := by
  refine path.lift Prod.snd ?_
  intro call next step
  cases step with
  | part held => exact .part held
  | parent extended _ => exact .parent extended

theorem readsOutside_nil
    (path : Relation.ReflTransGen (Reads doc) s t) :
    Relation.ReflTransGen (ReadsOutside doc []) s t := by
  refine Relation.ReflTransGen.mono ?_ _ _ path
  intro _ _ step
  cases step with
  | part held => exact .part held
  | parent extended => exact .parent extended (by simp)

/-- If the walk outside the stack reaches what can be reached at all, then the
conversion fails only for a schema that is malformed. -/
theorem succeeds_convert_of_covering
    (covering : ∀ t, Relation.ReflTransGen (Reads doc) s t →
      Relation.ReflTransGen (ReadsOutside doc active) s t) :
    (convert doc active s).Succeeds ↔
      ∀ t, Relation.ReflTransGen (Reads doc) s t → ¬ Malformed doc t := by
  rw [succeeds_convert_iff_calls]
  constructor
  · intro sound t path
    obtain ⟨reading, called⟩ := calls_of_readsOutside (covering t path)
    exact sound _ called
  · intro sound call path
    exact sound call.2 (reads_of_calls path)

/-- A schema has a type unless a malformed schema can be reached from it, and
the same holds of the type of a definition. -/
theorem converts_iff_nothing_malformed_reachable (doc : Document) :
    (∀ s : Schema, (s.toType doc).Succeeds ↔
      ∀ t, Relation.ReflTransGen (Reads doc) s t → ¬ Malformed doc t) ∧
    ∀ name s, (name, s) ∈ doc.definitions.entries →
      ((doc.definitionType name s).Succeeds ↔
        ∀ t, Relation.ReflTransGen (Reads doc) s t → ¬ Malformed doc t) := by
  constructor
  · intro s
    exact succeeds_convert_of_covering fun t path => readsOutside_nil path
  · intro name s member
    refine succeeds_convert_of_covering fun t path => ?_
    exact readsOutside_cons_of_body (OrderedMap.mem_entries_iff.mp member)
      (readsOutside_nil path)

def brokenCycle : Document :=
  { version := Document.supportedVersion
    info := { title := "Pets", version := "1" }
    definitions :=
      ⟨[("Cat", .inline { allOf := [.reference "Dog"] }),
        ("Dog", .inline
          { allOf := [.reference "#/definitions/Cat"]
            properties := [("tags", .inline { type := some .array })] })],
        by decide⟩ }

theorem brokenCycle_does_not_convert :
    ∃ cat, ("Cat", cat) ∈ brokenCycle.definitions.entries ∧
      ¬ (brokenCycle.definitionType "Cat" cat).Succeeds := by
  refine ⟨_, .head _, ?_⟩
  rw [(converts_iff_nothing_malformed_reachable brokenCycle).2 "Cat" _
    (.head _)]
  intro sound
  refine sound (.inline { type := some .array }) ?_ (.noItems rfl rfl rfl)
  refine .head (.parent (show Extends brokenCycle _ "Dog" _ from
    ⟨rfl, .head _, rfl⟩)) ?_
  exact .single (.part (@Schema.Holds.property _ _ _ "tags" rfl (.head _)))

end ApiBindings.Conversion
