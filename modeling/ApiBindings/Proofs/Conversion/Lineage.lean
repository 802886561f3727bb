import ApiBindings.Proofs.Conversion.Distinct
import ApiBindings.Proofs.Conversion.Failure

/-!
Inheritance, and what the stack of the definitions being read does to it. A
property is converted with the definition that declares it still on the stack.
So a property that inherits from its own definition, which is no cycle of
inheritance, loses what it would have on its own.
-/

namespace ApiBindings

/-- An object in the `allOf` of another one. -/
inductive Schema.Includes : Schema → Schema → Prop
  | intro {s : Schema} {body member : SchemaBody Schema}
      (shape : s.shape = .ok (.object body))
      (listed : .inline member ∈ body.allOf) : Includes s (.inline member)

structure TypeExpr.SameOutline (t u : TypeExpr) : Prop where
  kind : t.kind = u.kind
  text : t.text = u.text
  names : t.properties.map Property.name = u.properties.map Property.name

namespace Conversion

inductive HasParent (doc : Document) (s : Schema) (name : String) : Prop
  | intro {t parent : Schema}
      (inside : Relation.ReflTransGen Schema.Includes s t)
      (extended : Extends doc t name parent)

inductive Parent (doc : Document) (child parent : String) : Prop
  | intro {body : Schema} (entry : doc.definitions.get? child = some body)
      (heir : HasParent doc body parent)

inductive HasAncestor (doc : Document) (s : Schema) (name : String) : Prop
  | intro {first : String} (heir : HasParent doc s first)
      (chain : Relation.ReflTransGen (Parent doc) first name)

/-- No definition inherits from itself. What its properties inherit does not
count. -/
def NoOwnAncestor (doc : Document) : Prop :=
  ∀ name, ¬ Relation.TransGen (Parent doc) name name

def BringsIn (doc : Document) (name : String) : Schema → Prop
  | .inline body => HasAncestor doc (.inline body) name
  | .reference path => ∃ parent body, doc.definition path = .ok (parent, body) ∧
      (parent = name ∨ HasAncestor doc body name)

variable {doc : Document} {active other : List String} {s parent : Schema}
  {body : SchemaBody Schema} {name : String} {t u : TypeExpr}

theorem HasAncestor.of_includes {member : Schema} (included : s.Includes member)
    (ancestor : HasAncestor doc member name) : HasAncestor doc s name := by
  obtain ⟨⟨inside, extended⟩, chain⟩ := ancestor
  exact ⟨⟨.head included inside, extended⟩, chain⟩

theorem HasAncestor.of_extends (extended : Extends doc s name parent) :
    HasAncestor doc s name :=
  ⟨⟨.refl, extended⟩, .refl⟩

theorem HasAncestor.trans {middle : String}
    (extended : Extends doc s middle parent)
    (ancestor : HasAncestor doc parent name) : HasAncestor doc s name := by
  obtain ⟨heir, chain⟩ := ancestor
  exact ⟨⟨.refl, extended⟩, .head ⟨extended.entry, heir⟩ chain⟩

theorem hasAncestor_of_object (shape : s.shape = .ok (.object body)) :
    HasAncestor doc s name ↔
      ∃ member ∈ body.allOf, BringsIn doc name member := by
  constructor
  · intro ancestor
    obtain ⟨⟨inside, extended⟩, chain⟩ := ancestor
    rcases inside.cases_head with rfl | ⟨member, included, rest⟩
    · obtain ⟨same, listed, found⟩ := extended
      obtain rfl : body = _ := by simpa [shape] using same
      refine ⟨_, listed, _, _, found, ?_⟩
      rcases chain.cases_head with rfl | ⟨next, ⟨entry, heir⟩, rest⟩
      · exact .inl rfl
      · have known := (Document.definition_eq_ok.mp found).2
        obtain rfl := Option.some.inj (known.symm.trans entry)
        exact .inr ⟨heir, rest⟩
    · obtain ⟨same, listed⟩ := included
      obtain rfl : body = _ := by simpa [shape] using same
      exact ⟨_, listed, ⟨rest, extended⟩, chain⟩
  · intro through
    obtain ⟨member, listed, brings⟩ := through
    cases member with
    | inline inner => exact .of_includes (.intro shape listed) brings
    | reference path =>
        obtain ⟨middle, parent, found, same | above⟩ := brings
        · subst same
          exact .of_extends ⟨shape, listed, found⟩
        · exact .trans ⟨shape, listed, found⟩ above

theorem bringsIn_reference {path middle : String}
    (found : doc.definition path = .ok (middle, parent)) :
    BringsIn doc name (.reference path) ↔
      middle = name ∨ HasAncestor doc parent name := by
  simp [BringsIn, found]

theorem not_hasAncestor_of_shape
    (plain : ∀ body, s.shape ≠ .ok (.object body)) :
    ¬ HasAncestor doc s name := by
  intro ancestor
  obtain ⟨⟨inside, extended⟩, _⟩ := ancestor
  rcases inside.cases_head with rfl | ⟨_, ⟨shape, _⟩, _⟩
  · obtain ⟨shape, _, _⟩ := extended
    exact plain _ shape
  · exact plain _ shape

/-- Two runs for a schema: one of them reads `name`, and neither reads an
ancestor besides. -/
structure DifferBy (doc : Document) (name : String)
    (active other : List String) (s : Schema) : Prop where
  fresh : name ∉ active
  reading : name ∈ other
  free : ∀ middle, middle ∈ active ∨ middle ∈ other → middle ≠ name →
    ¬ HasAncestor doc s middle

theorem DifferBy.part {member : SchemaBody Schema}
    (differ : DifferBy doc name active other s)
    (shape : s.shape = .ok (.object body))
    (listed : .inline member ∈ body.allOf) :
    DifferBy doc name active other (.inline member) := by
  refine ⟨differ.fresh, differ.reading, ?_⟩
  intro middle busy different ancestor
  exact differ.free middle busy different
    (ancestor.of_includes (.intro shape listed))

theorem DifferBy.not_mem {middle : String}
    (differ : DifferBy doc name active other s)
    (extended : Extends doc s middle parent) (different : middle ≠ name) :
    middle ∉ active ∧ middle ∉ other := by
  rw [← not_or]
  intro busy
  exact differ.free middle busy different (.of_extends extended)

theorem DifferBy.enter {middle : String} (simple : NoOwnAncestor doc)
    (differ : DifferBy doc name active other s)
    (extended : Extends doc s middle parent) (different : middle ≠ name) :
    DifferBy doc name (middle :: active) (middle :: other) parent := by
  refine ⟨?_, .tail _ differ.reading, ?_⟩
  · exact List.not_mem_cons_of_ne_of_not_mem different.symm differ.fresh
  · intro older busy unlike ancestor
    by_cases same : older = middle
    · subst same
      obtain ⟨heir, chain⟩ := ancestor
      exact simple older (.head' ⟨extended.entry, heir⟩ chain)
    · simp only [List.mem_cons, same, false_or] at busy
      exact differ.free older busy unlike (.trans extended ancestor)

/-- What is kept of a list, where something is missing exactly under a
condition. -/
structure Pruned {α : Type} (missing : Prop) (kept full : List α) : Prop where
  sublist : kept.Sublist full
  eq_iff : kept = full ↔ ¬ missing

theorem Pruned.refl {α : Type} (xs : List α) : Pruned False xs xs :=
  ⟨.refl xs, by simp⟩

theorem Pruned.nil {α : Type} {missing : Prop} {full : List α}
    (gone : missing) (some : full ≠ []) : Pruned missing [] full :=
  ⟨List.nil_sublist full, iff_of_false some.symm (not_not_intro gone)⟩

theorem Pruned.append {α : Type} {missing gone : Prop}
    {kept full kept' full' : List α} (first : Pruned missing kept full)
    (second : Pruned gone kept' full') :
    Pruned (missing ∨ gone) (kept ++ kept') (full ++ full') := by
  refine ⟨first.sublist.append second.sublist, ?_⟩
  rw [not_or, ← first.eq_iff, ← second.eq_iff]
  constructor
  · intro same
    have total := congrArg List.length same
    have before := first.sublist.length_le
    have after := second.sublist.length_le
    simp only [List.length_append] at total
    exact List.append_inj same (by omega)
  · intro both
    rw [both.1, both.2]

theorem Pruned.flatten_map {α β γ : Type} {missing : α → Prop}
    {keeps gives : α → β → Prop} {f : β → List γ} {xs : List α}
    {kept full : List β} (first : List.Forall₂ keeps xs kept)
    (second : List.Forall₂ gives xs full)
    (each : ∀ x ∈ xs, ∀ k g, keeps x k → gives x g →
      Pruned (missing x) (f k) (f g)) :
    Pruned (∃ x ∈ xs, missing x) (kept.map f).flatten (full.map f).flatten := by
  induction first generalizing full with
  | nil =>
      cases second
      simpa using Pruned.refl []
  | cons head _ induction =>
      cases second with
      | cons head' rest' =>
          have here := each _ (.head _) _ _ head head'
          have there := induction rest' fun x listed =>
            each x (.tail _ listed)
          simpa using here.append there

/-- The definitions being read have no say in what kind of type it is. -/
theorem kind_text_of_convert {s : Schema} {t u : TypeExpr}
    (ran : (convert doc active s).result = .ok t)
    (alone : (convert doc other s).result = .ok u) :
    t.kind = u.kind ∧ t.text = u.text := by
  cases yields_of_convert ran with
  | reference shape found =>
      rw [convert_of_reference shape found] at alone
      cases alone
      exact ⟨rfl, rfl⟩
  | choice shape =>
      rw [convert_of_choice shape] at alone
      cases alone
      exact ⟨rfl, rfl⟩
  | primitive shape =>
      rw [convert_of_primitive shape] at alone
      cases alone
      exact ⟨rfl, rfl⟩
  | array shape element =>
      have smaller := sizeOf_of_shape_array shape
      rw [convert_of_array shape, Traced.result_map,
        Outcome.map_eq_ok] at alone
      obtain ⟨u, element', rfl⟩ := alone
      have texts := (kind_text_of_convert element element').2
      exact ⟨rfl, congrArg TypeExpr.arrayText texts⟩
  | map shape value =>
      have smaller := sizeOf_of_shape_map shape
      rw [convert_of_map shape, Traced.result_map, Outcome.map_eq_ok] at alone
      obtain ⟨u, value', rfl⟩ := alone
      have texts := (kind_text_of_convert value value').2
      exact ⟨rfl, congrArg TypeExpr.mapText texts⟩
  | object shape _ _ =>
      rw [convert_of_object shape] at alone
      simp only [Traced.result_bind, Outcome.bind_eq_ok] at alone
      obtain ⟨_, _, _, _, ⟨⟩⟩ := alone
      exact ⟨rfl, rfl⟩
termination_by sizeOf s

theorem names_ne_nil (shape : s.shape = .ok (.object body))
    (declares : body.properties ≠ [])
    (ran : (convert doc active s).result = .ok t) :
    t.properties.map Property.name ≠ [] := by
  obtain ⟨_, _, names⟩ := names_of_object shape ran
  rw [names]
  simp [declares]

theorem eq_properties_of_fresh {path : String}
    {given : List (Property TypeExpr)}
    (found : doc.definition path = .ok (name, parent)) (fresh : name ∉ active)
    (ran : (referencedProperties doc active path).result = .ok given) :
    ∃ t, (convert doc (name :: active) parent).result = .ok t ∧
      t.properties = given := by
  rwa [referencedProperties_of_fresh found fresh, Traced.result_map,
    Outcome.map_eq_ok] at ran

section Guard

variable {root : Schema} {rootBody : SchemaBody Schema}
  (entry : doc.definitions.get? name = some root)
  (rootShape : root.shape = .ok (.object rootBody))
  (declares : rootBody.properties ≠ [])

include entry rootShape declares

theorem pruned_of_reference {path : String}
    {given kept : List (Property TypeExpr)}
    (differ : DifferBy doc name active other s)
    (shape : s.shape = .ok (.object body))
    (listed : .reference path ∈ body.allOf)
    (deeper : ∀ middle parent t u, Extends doc s middle parent →
      middle ≠ name → middle ∉ active →
      (convert doc (middle :: active) parent).result = .ok t →
      (convert doc (middle :: other) parent).result = .ok u →
      Pruned (HasAncestor doc parent name) (u.properties.map Property.name)
        (t.properties.map Property.name))
    (ran : (referencedProperties doc active path).result = .ok given)
    (cut : (referencedProperties doc other path).result = .ok kept) :
    Pruned (BringsIn doc name (.reference path)) (kept.map Property.name)
      (given.map Property.name) := by
  cases found : doc.definition path with
  | error e =>
      rw [referencedProperties_of_unresolved found] at ran
      cases ran
  | ok target =>
      obtain ⟨middle, parent⟩ := target
      have extended : Extends doc s middle parent := ⟨shape, listed, found⟩
      rw [bringsIn_reference found]
      by_cases again : middle = name
      · -- One run stops here; in the other one `name` gives what it declares.
        subst again
        obtain rfl := Option.some.inj (entry.symm.trans extended.entry)
        rw [result_referencedProperties_of_active found differ.reading] at cut
        cases cut
        obtain ⟨t, typed, rfl⟩ := eq_properties_of_fresh found differ.fresh ran
        exact .nil (.inl rfl) (names_ne_nil rootShape declares typed)
      · obtain ⟨fresh, fresh'⟩ := differ.not_mem extended again
        obtain ⟨t, typed, rfl⟩ := eq_properties_of_fresh found fresh ran
        obtain ⟨u, typed', rfl⟩ := eq_properties_of_fresh found fresh' cut
        rw [or_iff_right again]
        exact deeper _ _ _ _ extended again fresh typed typed'

/-- While `name` is being read, a conversion loses a property exactly if it
comes upon `name` again. -/
theorem names_pruned (simple : NoOwnAncestor doc)
    (differ : DifferBy doc name active other s)
    (ran : (convert doc active s).result = .ok t)
    (cut : (convert doc other s).result = .ok u) :
    Pruned (HasAncestor doc s name) (u.properties.map Property.name)
      (t.properties.map Property.name) := by
  generalize start : (active, s) = first
  induction first using (wellFounded_calls doc).induction
    generalizing active other s t u
  next first induction =>
    subst start
    by_cases object : ∃ body, s.shape = .ok (.object body)
    · obtain ⟨body, shape⟩ := object
      obtain ⟨given, members, names⟩ := names_of_object shape ran
      obtain ⟨kept, members', names'⟩ := names_of_object shape cut
      have inherited : Pruned (HasAncestor doc s name)
          (kept.map (List.map Property.name)).flatten
          (given.map (List.map Property.name)).flatten := by
        rw [hasAncestor_of_object shape]
        apply Pruned.flatten_map members' members
        intro member listed keeps gives cut ran
        cases member with
        | inline part =>
            rw [memberProperties, Traced.result_map,
              Outcome.map_eq_ok] at cut ran
            obtain ⟨t, typed, rfl⟩ := ran
            obtain ⟨u, typed', rfl⟩ := cut
            have step : Calls doc (active, s) (active, .inline part) :=
              .part (.member shape listed)
            exact induction _ step (differ.part shape listed) typed typed' rfl
        | reference path =>
            rw [memberProperties_convert] at cut ran
            refine pruned_of_reference entry rootShape declares differ shape
              listed ?_ ran cut
            intro middle parent t u extended different fresh typed typed'
            exact induction _ (.parent extended fresh)
              (differ.enter simple extended different) typed typed' rfl
      rw [names, names']
      have whole := inherited.append (.refl (body.properties.map Prod.fst))
      simpa using whole
    · have plain := not_exists.mp object
      rw [properties_of_plain plain ran, properties_of_plain plain cut]
      simpa [not_hasAncestor_of_shape plain] using Pruned.refl []

end Guard

theorem succeeds_toType_of_definition {root p : Schema}
    (entry : (name, root) ∈ doc.definitions.entries)
    (converts : (doc.definitionType name root).Succeeds)
    (held : root.Holds p) : (p.toType doc).Succeeds := by
  have sound := (succeeds_convert_of_covering fun t path =>
    readsOutside_cons_of_body (OrderedMap.mem_entries_iff.mp entry)
      (readsOutside_nil path)).mp converts
  apply (succeeds_convert_of_covering fun t path =>
    readsOutside_nil path).mpr
  intro t path
  exact sound t (.head (.part held) path)

theorem sameOutline_iff {root p : Schema} (simple : NoOwnAncestor doc)
    (entry : doc.definitions.get? name = some root)
    (shape : root.shape = .ok (.object body)) (declares : body.properties ≠ [])
    (member : (convert doc [name] p).result = .ok t)
    (alone : (p.toType doc).result = .ok u) :
    t.SameOutline u ↔ ¬ HasAncestor doc p name := by
  have differ : DifferBy doc name [] [name] p := by
    refine ⟨List.not_mem_nil, .head _, ?_⟩
    intro middle busy different
    simp [different] at busy
  have pruned := names_pruned entry shape declares simple differ alone member
  rw [← pruned.eq_iff]
  constructor
  · intro outline
    exact outline.names
  · intro names
    obtain ⟨kind, text⟩ := kind_text_of_convert member alone
    exact ⟨kind, text, names⟩

/-- In a document without inheritance from itself, a property of a definition
looks the same as its schema does on its own exactly if that schema does not
inherit from the definition. -/
theorem member_outline_kept_iff {root : Schema} (simple : NoOwnAncestor doc)
    (entry : (name, root) ∈ doc.definitions.entries)
    (shape : root.shape = .ok (.object body))
    (ran : (doc.definitionType name root).result = .ok t) :
    ∃ inherited own, t.properties = inherited ++ own ∧
      List.Forall₂ (fun declared p => p.name = declared.1 ∧
        ∃ u, (declared.2.toType doc).result = .ok u ∧
          (p.type.SameOutline u ↔ ¬ HasAncestor doc declared.2 name))
        body.properties own := by
  have converts : (doc.definitionType name root).Succeeds := ⟨t, ran⟩
  have known := OrderedMap.mem_entries_iff.mp entry
  rw [Document.definitionType, convert_of_object shape,
    ownProperties_eq_mapM] at ran
  simp only [Traced.result_bind, Outcome.bind_eq_ok,
    Traced.result_mapM_eq_ok] at ran
  obtain ⟨inherited, _, own, members, ⟨⟩⟩ := ran
  refine ⟨inherited, own, rfl, ?_⟩
  have listed := (List.forall₂_and_left _ _).mpr ⟨fun _ => id, members⟩
  apply listed.imp
  rintro ⟨label, p⟩ property ⟨listed, converted⟩
  rw [ownProperty, Traced.result_map, Outcome.map_eq_ok] at converted
  obtain ⟨t, member, rfl⟩ := converted
  obtain ⟨u, alone⟩ :=
    succeeds_toType_of_definition entry converts (.property shape listed)
  exact ⟨rfl, u, alone, sameOutline_iff simple known shape
    (List.ne_nil_of_mem listed) member alone⟩

def subtypeOf (path : String) : Schema := .inline { allOf := [.reference path] }

def ticket : Schema :=
  .inline { properties := [("id", .inline { type := some .integer })] }

def link : Schema :=
  .inline
    { properties :=
        [("ticket", subtypeOf "#/definitions/Ticket"),
          ("next", subtypeOf "#/definitions/Link")] }

def queue : Document :=
  { version := Document.supportedVersion
    info := { title := "Queue", version := "1" }
    definitions := ⟨[("Ticket", ticket), ("Link", link)], by decide⟩ }

theorem not_hasAncestor_ticket : ¬ HasAncestor queue ticket name := by
  rw [hasAncestor_of_object rfl]
  simp

theorem not_hasAncestor_link : ¬ HasAncestor queue link name := by
  rw [hasAncestor_of_object rfl]
  simp

theorem queue_noOwnAncestor : NoOwnAncestor queue := by
  intro name circle
  obtain ⟨first, parent, _⟩ := Relation.TransGen.head'_iff.mp circle
  obtain ⟨entry, heir⟩ := parent
  have ancestor : HasAncestor queue _ first := ⟨heir, .refl⟩
  have listed := OrderedMap.mem_entries_of_get? entry
  simp only [queue, List.mem_cons, Prod.mk.injEq, List.not_mem_nil,
    or_false] at listed
  rcases listed with ⟨_, rfl⟩ | ⟨_, rfl⟩
  · exact not_hasAncestor_ticket ancestor
  · exact not_hasAncestor_link ancestor

theorem convert_ticket :
    (convert queue active ticket).result =
      .ok (TypeExpr.object [⟨"id", .primitive "number", true⟩]) := by
  rw [ticket, convert_of_object rfl, inheritedProperties_nil,
    ownProperties_cons, ownProperties_nil, convert_of_primitive rfl]
  rfl

theorem convert_subtypeOf_ticket (fresh : "Ticket" ∉ active) :
    (convert queue active (subtypeOf "#/definitions/Ticket")).result =
      .ok (TypeExpr.object [⟨"id", .primitive "number", true⟩]) := by
  have found : queue.definition "#/definitions/Ticket" =
      .ok ("Ticket", ticket) := rfl
  rw [subtypeOf, convert_of_object rfl, inheritedProperties_reference,
    referencedProperties_of_fresh found fresh, inheritedProperties_nil,
    ownProperties_nil]
  simp only [Traced.result_bind, Traced.result_map, convert_ticket]
  rfl

theorem convert_subtypeOf_link (reading : "Link" ∈ active) :
    (convert queue active (subtypeOf "#/definitions/Link")).result =
      .ok (TypeExpr.object []) := by
  have found : queue.definition "#/definitions/Link" = .ok ("Link", link) := rfl
  rw [subtypeOf, convert_of_object rfl, inheritedProperties_reference,
    inheritedProperties_nil, ownProperties_nil]
  simp only [Traced.result_bind,
    result_referencedProperties_of_active found reading]
  rfl

theorem definitionType_link :
    (queue.definitionType "Link" link).result =
      .ok (TypeExpr.object
        [⟨"ticket", TypeExpr.object [⟨"id", .primitive "number", true⟩], true⟩,
          ⟨"next", TypeExpr.object [], true⟩]) := by
  have first := @convert_subtypeOf_ticket ["Link"] (by decide)
  have second := @convert_subtypeOf_link ["Link"] (.head _)
  rw [Document.definitionType, link, convert_of_object rfl,
    inheritedProperties_nil, ownProperties_cons, ownProperties_cons,
    ownProperties_nil]
  simp only [Traced.result_bind, first, second]
  rfl

theorem toType_subtypeOf_link :
    ((subtypeOf "#/definitions/Link").toType queue).result =
      .ok (TypeExpr.object
        [⟨"ticket", TypeExpr.object [⟨"id", .primitive "number", true⟩], true⟩,
          ⟨"next", TypeExpr.object [], true⟩]) := by
  have found : queue.definition "#/definitions/Link" = .ok ("Link", link) := rfl
  have inside := definitionType_link
  rw [Document.definitionType] at inside
  rw [Schema.toType, subtypeOf, convert_of_object rfl,
    inheritedProperties_reference,
    referencedProperties_of_fresh found (by decide), inheritedProperties_nil,
    ownProperties_nil]
  simp only [Traced.result_bind, Traced.result_map, inside]
  rfl

theorem link_keeps_its_ticket :
    ∃ t, (queue.definitionType "Link" link).result = .ok t ∧
      ∃ p ∈ t.properties, p.name = "ticket" ∧
        ∃ u, ((subtypeOf "#/definitions/Ticket").toType queue).result = .ok u ∧
          p.type.SameOutline u := by
  obtain ⟨inherited, own, split, kept⟩ :=
    member_outline_kept_iff queue_noOwnAncestor (.tail _ (.head _)) rfl
      definitionType_link
  refine ⟨_, definitionType_link, ?_⟩
  obtain ⟨p, rest, first, _, rfl⟩ := List.forall₂_cons_left_iff.mp kept
  obtain ⟨named, u, alone, same⟩ := first
  refine ⟨p, ?_, named, u, alone, same.mpr ?_⟩
  · rw [split]
    exact List.mem_append_right _ (.head _)
  · rw [hasAncestor_of_object rfl]
    have found : queue.definition "#/definitions/Ticket" =
        .ok ("Ticket", ticket) := rfl
    simp [bringsIn_reference found, not_hasAncestor_ticket]

/-- The next link loses what it has elsewhere, though nothing inherits from
itself. -/
theorem link_loses_the_next :
    NoOwnAncestor queue ∧
    ∃ t, (queue.definitionType "Link" link).result = .ok t ∧
      ∃ p ∈ t.properties, p.name = "next" ∧
        ∃ u, ((subtypeOf "#/definitions/Link").toType queue).result = .ok u ∧
          ¬ p.type.SameOutline u := by
  refine ⟨queue_noOwnAncestor, _, definitionType_link, _, .tail _ (.head _),
    rfl, _, toType_subtypeOf_link, ?_⟩
  intro outline
  cases outline.names

end Conversion

end ApiBindings
