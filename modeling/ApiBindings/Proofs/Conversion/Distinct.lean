import ApiBindings.Proofs.Conversion.Plain
import ApiBindings.Proofs.Conversion.Recursion
import Mathlib.Data.List.Nodup

/-!
When a type declares no property twice. The properties of an object are those
of its `allOf` members and then its own ones; so they are distinct exactly if no
two of these sources declare the same name, neither at the object itself nor at
one that it takes properties from.
-/

namespace ApiBindings.Conversion

/-- The call whose properties a member of `allOf` gives, if it gives any. -/
def memberCall? (doc : Document) (active : List String) :
    Schema → Option (List String × Schema)
  | .inline body => some (active, .inline body)
  | .reference path =>
      match doc.definition path with
      | .error _ => none
      | .ok (name, parent) =>
          if name ∈ active then none else some (name :: active, parent)

/-- The calls whose properties the type of an object takes over. -/
inductive Takes (doc : Document) :
    List String × Schema → List String × Schema → Prop
  | intro {active : List String} {s member : Schema} {body : SchemaBody Schema}
      {next : List String × Schema} (shape : s.shape = .ok (.object body))
      (listed : member ∈ body.allOf)
      (called : memberCall? doc active member = some next) :
      Takes doc (active, s) next

inductive Provides (doc : Document) (call : List String × Schema)
    (name : String) : Prop
  | intro {last : List String × Schema} {body : SchemaBody Schema}
      (path : Relation.ReflTransGen (Takes doc) call last)
      (shape : last.2.shape = .ok (.object body))
      (declared : name ∈ body.properties.map Prod.fst)

def mark (p : Property TypeExpr) : String × Bool := (p.name, p.optional)

def ownMarks (body : SchemaBody Schema) : List (String × Bool) :=
  body.properties.map fun entry => (entry.1, !body.required.contains entry.1)

/-- Like `Provides`, for a property with its mark. -/
inductive Shows (doc : Document) (call : List String × Schema)
    (m : String × Bool) : Prop
  | intro {last : List String × Schema} {body : SchemaBody Schema}
      (path : Relation.ReflTransGen (Takes doc) call last)
      (shape : last.2.shape = .ok (.object body))
      (declared : m ∈ ownMarks body)

def Gives (doc : Document) (active : List String) (member : Schema)
    (name : String) : Prop :=
  ∃ next, memberCall? doc active member = some next ∧ Provides doc next name

/-- What an object declares itself and what its members give are different
properties. -/
structure Apart (doc : Document) (active : List String)
    (body : SchemaBody Schema) : Prop where
  own : (body.properties.map Prod.fst).Nodup
  members : body.allOf.Pairwise fun first second =>
    ∀ name, Gives doc active first name → ¬ Gives doc active second name
  inherited : ∀ member ∈ body.allOf, ∀ name, Gives doc active member name →
    name ∉ body.properties.map Prod.fst

/-- All objects that the properties of a call come from keep their sources
apart. -/
def AllApart (doc : Document) (call : List String × Schema) : Prop :=
  ∀ last body, Relation.ReflTransGen (Takes doc) call last →
    last.2.shape = .ok (.object body) → Apart doc last.1 body

variable {doc : Document} {active : List String} {s member : Schema}
  {body : SchemaBody Schema} {name : String} {t : TypeExpr}

theorem Takes.calls {call next : List String × Schema}
    (takes : Takes doc call next) : Calls doc call next := by
  obtain ⟨shape, listed, called⟩ := takes
  rename_i member _
  cases member with
  | inline body =>
      cases called
      exact .part (.member shape listed)
  | reference path =>
      simp only [memberCall?] at called
      split at called
      next => cases called
      next name parent found =>
        split at called
        next => cases called
        next fresh =>
          cases called
          exact .parent ⟨shape, listed, found⟩ fresh

theorem map_fst_ownMarks (body : SchemaBody Schema) :
    (ownMarks body).map Prod.fst = body.properties.map Prod.fst := by
  simp [ownMarks]

theorem provides_iff_shows {call : List String × Schema} :
    Provides doc call name ↔ ∃ optional, Shows doc call (name, optional) := by
  constructor
  · rintro ⟨path, shape, declared⟩
    rw [← map_fst_ownMarks, List.mem_map] at declared
    obtain ⟨m, declared, rfl⟩ := declared
    exact ⟨m.2, path, shape, declared⟩
  · rintro ⟨optional, path, shape, declared⟩
    refine ⟨path, shape, ?_⟩
    rw [← map_fst_ownMarks]
    exact List.mem_map_of_mem declared

theorem shows_of_object (shape : s.shape = .ok (.object body))
    {m : String × Bool} :
    Shows doc (active, s) m ↔
      (∃ member ∈ body.allOf, ∃ next,
        memberCall? doc active member = some next ∧ Shows doc next m) ∨
        m ∈ ownMarks body := by
  constructor
  · rintro ⟨path, found, declared⟩
    rcases path.cases_head with rfl | ⟨next, takes, rest⟩
    · obtain rfl : body = _ := by simpa [shape] using found
      exact .inr declared
    · obtain ⟨same, listed, called⟩ := takes
      obtain rfl : body = _ := by simpa [shape] using same
      exact .inl ⟨_, listed, next, called, rest, found, declared⟩
  · rintro (⟨member, listed, next, called, path, found, declared⟩ | declared)
    · exact ⟨.head (.intro shape listed called) path, found, declared⟩
    · exact ⟨.refl, shape, declared⟩

theorem allApart_of_object (shape : s.shape = .ok (.object body)) :
    AllApart doc (active, s) ↔ Apart doc active body ∧
      ∀ member ∈ body.allOf, ∀ next, memberCall? doc active member = some next →
        AllApart doc next := by
  constructor
  · intro apart
    refine ⟨apart _ _ .refl shape, ?_⟩
    intro member listed next called last inner path found
    exact apart last inner (.head (.intro shape listed called) path) found
  · rintro ⟨here, deeper⟩ last inner path found
    rcases path.cases_head with rfl | ⟨next, takes, rest⟩
    · obtain rfl : body = inner := by simpa [shape] using found
      exact here
    · obtain ⟨same, listed, called⟩ := takes
      obtain rfl : body = _ := by simpa [shape] using same
      exact deeper _ listed next called last inner rest found

/-- What is not an object has no sources of properties. -/
theorem not_takes_of_shape {call : List String × Schema}
    (plain : ∀ body, s.shape ≠ .ok (.object body))
    (path : Relation.ReflTransGen (Takes doc) (active, s) call) :
    call = (active, s) := by
  rcases path.cases_head with rfl | ⟨next, takes, _⟩
  · rfl
  · obtain ⟨shape, _, _⟩ := takes
    exact absurd shape (plain _)

theorem properties_of_member {given : List (Property TypeExpr)}
    (ran : (memberProperties doc (convert doc) active member).result =
      .ok given) :
    (memberCall? doc active member = none ∧ given = []) ∨
      ∃ next t, memberCall? doc active member = some next ∧
        (convert doc next.1 next.2).result = .ok t ∧ given = t.properties := by
  cases member with
  | inline body =>
      rw [memberProperties, Traced.result_map, Outcome.map_eq_ok] at ran
      obtain ⟨t, typed, rfl⟩ := ran
      exact .inr ⟨_, t, rfl, typed, rfl⟩
  | reference path =>
      rw [memberProperties] at ran
      rw [memberCall?]
      cases found : doc.definition path with
      | error e =>
          rw [found] at ran
          cases ran
      | ok entry =>
          obtain ⟨name, parent⟩ := entry
          simp only [found] at ran
          by_cases busy : name ∈ active
          · rw [if_pos busy] at ran
            cases ran
            exact .inl ⟨if_pos busy, rfl⟩
          · rw [if_neg busy, Traced.result_map, Outcome.map_eq_ok] at ran
            obtain ⟨t, typed, rfl⟩ := ran
            exact .inr ⟨_, t, if_neg busy, typed, rfl⟩

/-- The marks in an object's type: those that the members give, one member
after the other, and then the object's own ones. -/
theorem marks_of_object (shape : s.shape = .ok (.object body))
    (ran : (convert doc active s).result = .ok t) :
    ∃ given, List.Forall₂ (fun member properties =>
        (memberProperties doc (convert doc) active member).result =
          .ok properties) body.allOf given ∧
      t.properties.map mark = (given.map (List.map mark)).flatten ++
        ownMarks body := by
  rw [convert_of_object shape, inheritedProperties_eq_mapM,
    ownProperties_eq_mapM] at ran
  simp only [Traced.result_bind, Traced.result_map, Traced.result_pure,
    Outcome.bind_eq_ok, Outcome.map_eq_ok, Traced.result_mapM_eq_ok] at ran
  obtain ⟨_, ⟨given, members, rfl⟩, own, declared, ⟨⟩⟩ := ran
  have marks : ownMarks body = own.map mark := by
    refine map_eq_of_forall₂ declared ?_
    intro entry property converted
    rw [ownProperty, Traced.result_map, Outcome.map_eq_ok] at converted
    obtain ⟨type, _, rfl⟩ := converted
    rfl
  refine ⟨given, members, ?_⟩
  rw [marks, ← List.map_flatten]
  exact List.map_append

theorem map_fst_marks (properties : List (Property TypeExpr)) :
    (properties.map mark).map Prod.fst = properties.map Property.name := by
  simp [mark]

theorem names_of_object (shape : s.shape = .ok (.object body))
    (ran : (convert doc active s).result = .ok t) :
    ∃ given, List.Forall₂ (fun member properties =>
        (memberProperties doc (convert doc) active member).result =
          .ok properties) body.allOf given ∧
      t.properties.map Property.name =
        (given.map (List.map Property.name)).flatten ++
          body.properties.map Prod.fst := by
  obtain ⟨given, members, marks⟩ := marks_of_object shape ran
  refine ⟨given, members, ?_⟩
  have names := congrArg (List.map Prod.fst) marks
  rw [map_fst_marks, List.map_append, map_fst_ownMarks, ← List.map_flatten,
    map_fst_marks, List.map_flatten] at names
  exact names

theorem properties_of_plain (plain : ∀ body, s.shape ≠ .ok (.object body))
    (ran : (convert doc active s).result = .ok t) : t.properties = [] := by
  cases yields_of_convert ran with
  | object shape _ _ => exact absurd shape (plain _)
  | _ => rfl

theorem mem_marks_iff (ran : (convert doc active s).result = .ok t)
    {m : String × Bool} :
    m ∈ t.properties.map mark ↔ Shows doc (active, s) m := by
  generalize start : (active, s) = first
  induction first using (wellFounded_calls doc).induction generalizing active s t
  next first induction =>
    subst start
    by_cases object : ∃ body, s.shape = .ok (.object body)
    · obtain ⟨body, shape⟩ := object
      obtain ⟨given, members, marks⟩ := marks_of_object shape ran
      have known {member next t} (listed : member ∈ body.allOf)
          (called : memberCall? doc active member = some next)
          (typed : (convert doc next.1 next.2).result = .ok t) :
          m ∈ t.properties.map mark ↔ Shows doc next m :=
        induction next (Takes.intro shape listed called).calls typed rfl
      rw [marks, shows_of_object shape, List.mem_append, List.mem_flatten]
      refine or_congr_left ⟨?_, ?_⟩
      · rintro ⟨_, chosen, inside⟩
        obtain ⟨properties, kept, rfl⟩ := List.mem_map.mp chosen
        obtain ⟨member, listed, ran⟩ := exists_of_mem_right members kept
        rcases properties_of_member ran with ⟨_, rfl⟩ |
          ⟨next, t, called, typed, rfl⟩
        · cases inside
        · have shows := (known listed called typed).mp inside
          exact ⟨member, listed, next, called, shows⟩
      · rintro ⟨member, listed, next, called, shows⟩
        obtain ⟨properties, kept, ran⟩ := exists_of_mem_left members listed
        rcases properties_of_member ran with ⟨silent, _⟩ |
          ⟨_, t, again, typed, rfl⟩
        · rw [silent] at called
          cases called
        · obtain rfl := Option.some.inj (called.symm.trans again)
          have inside := (known listed called typed).mpr shows
          exact ⟨_, List.mem_map_of_mem kept, inside⟩
    · have plain := not_exists.mp object
      rw [properties_of_plain plain ran]
      refine iff_of_false List.not_mem_nil ?_
      rintro ⟨path, shape, _⟩
      obtain rfl := not_takes_of_shape plain path
      exact plain _ shape

theorem mem_names_iff (ran : (convert doc active s).result = .ok t) :
    name ∈ t.properties.map Property.name ↔
      Provides doc (active, s) name := by
  rw [provides_iff_shows, ← map_fst_marks, List.mem_map]
  simp only [← mem_marks_iff ran, Prod.exists, exists_and_right,
    exists_eq_right]

theorem mem_names_of_member {given : List (Property TypeExpr)}
    (ran : (memberProperties doc (convert doc) active member).result =
      .ok given) :
    name ∈ given.map Property.name ↔ Gives doc active member name := by
  rcases properties_of_member ran with ⟨silent, rfl⟩ |
    ⟨next, t, called, typed, rfl⟩
  · simp [Gives, silent]
  · rw [mem_names_iff typed]
    simp [Gives, called]

theorem disjoint_flatten_iff {α : Type} {xss : List (List α)} {ys : List α} :
    xss.flatten.Disjoint ys ↔ ∀ xs ∈ xss, xs.Disjoint ys := by
  simp only [List.disjoint_left, List.mem_flatten]
  constructor
  · intro apart xs listed x inside
    exact apart ⟨xs, listed, inside⟩
  · rintro apart x ⟨xs, listed, inside⟩
    exact apart xs listed inside

/-- At one object: its names are distinct if those of each member are, and the
object keeps its sources apart. -/
theorem nodup_names_of_object {given : List (List (Property TypeExpr))}
    (members : List.Forall₂ (fun member properties =>
      (memberProperties doc (convert doc) active member).result =
        .ok properties) body.allOf given) :
    ((given.map (List.map Property.name)).flatten ++
        body.properties.map Prod.fst).Nodup ↔
      Apart doc active body ∧
        ∀ properties ∈ given, (properties.map Property.name).Nodup := by
  have disjoint : body.allOf.Pairwise (fun first second =>
        ∀ name, Gives doc active first name →
          ¬ Gives doc active second name) ↔
      (given.map (List.map Property.name)).Pairwise List.Disjoint := by
    rw [List.pairwise_map]
    refine pairwise_of_forall₂ members ?_
    intro first properties second others ran ran'
    simp only [List.disjoint_left, mem_names_of_member ran,
      mem_names_of_member ran']
  have apart : (∀ member ∈ body.allOf, ∀ name, Gives doc active member name →
        name ∉ body.properties.map Prod.fst) ↔
      (given.map (List.map Property.name)).flatten.Disjoint
        (body.properties.map Prod.fst) := by
    rw [disjoint_flatten_iff, List.forall_mem_map]
    refine forall_mem_of_forall₂ members ?_
    intro member properties ran
    simp only [List.disjoint_left, mem_names_of_member ran]
  rw [List.nodup_append', List.nodup_flatten, List.forall_mem_map, ← disjoint,
    ← apart]
  constructor
  · rintro ⟨⟨each, pairs⟩, own, inherited⟩
    exact ⟨⟨own, pairs, inherited⟩, each⟩
  · rintro ⟨⟨own, pairs, inherited⟩, each⟩
    exact ⟨⟨each, pairs⟩, own, inherited⟩

/-- The properties of a type have different names exactly if every object that
they come from keeps apart what it declares itself and what its members give. -/
theorem property_names_distinct_iff
    (ran : (convert doc active s).result = .ok t) :
    (t.properties.map Property.name).Nodup ↔ AllApart doc (active, s) := by
  generalize start : (active, s) = first
  induction first using (wellFounded_calls doc).induction generalizing active s t
  next first induction =>
    subst start
    by_cases object : ∃ body, s.shape = .ok (.object body)
    · obtain ⟨body, shape⟩ := object
      obtain ⟨given, members, names⟩ := names_of_object shape ran
      rw [names, nodup_names_of_object members, allApart_of_object shape]
      refine and_congr_right fun _ => ?_
      have listed := (List.forall₂_and_left _ _).mpr ⟨fun _ => id, members⟩
      refine (forall_mem_of_forall₂ listed ?_).symm
      rintro member properties ⟨listed, ran⟩
      rcases properties_of_member ran with ⟨silent, rfl⟩ |
        ⟨next, t, called, typed, rfl⟩
      · simp [silent]
      · have step := (Takes.intro shape listed called).calls
        simp [called, induction next step typed rfl]
    · have plain := not_exists.mp object
      rw [properties_of_plain plain ran]
      refine iff_of_true List.nodup_nil ?_
      intro last body path shape
      obtain rfl := not_takes_of_shape plain path
      exact absurd shape (plain body)

theorem convert_animal :
    (convert diamond active animal).result =
      .ok (TypeExpr.object [⟨"id", .primitive "number", true⟩]) := by
  rw [convert_of_object rfl, inheritedProperties_nil, ownProperties_cons,
    ownProperties_nil, convert_of_primitive rfl]
  rfl

theorem convert_dog (fresh : "Animal" ∉ active) :
    (convert diamond active dog).result =
      .ok (TypeExpr.object [⟨"id", .primitive "number", true⟩]) := by
  have found : diamond.definition "Animal" = .ok ("Animal", animal) := rfl
  rw [convert_of_object rfl, inheritedProperties_reference,
    referencedProperties_of_fresh found fresh, inheritedProperties_nil,
    ownProperties_nil]
  simp only [Traced.result_bind, Traced.result_map, convert_animal]
  rfl

theorem dog_keeps_apart :
    ∃ t, (diamond.definitionType "Dog" dog).result = .ok t ∧
      t.properties.map Property.name = ["id"] ∧
      AllApart diamond (["Dog"], dog) := by
  have ran : (convert diamond ["Dog"] dog).result = .ok _ :=
    convert_dog (by decide)
  refine ⟨_, ran, rfl, ?_⟩
  exact (property_names_distinct_iff ran).mp (by decide)

/-- `Puppy` inherits the property of `Animal` on two ways. -/
theorem puppy_declares_twice :
    ∃ t, (diamond.definitionType "Puppy" puppy).result = .ok t ∧
      ¬ (t.properties.map Property.name).Nodup := by
  have first : diamond.definition "Dog" = .ok ("Dog", dog) := rfl
  have second : diamond.definition "Animal" = .ok ("Animal", animal) := rfl
  refine ⟨TypeExpr.object [⟨"id", .primitive "number", true⟩,
    ⟨"id", .primitive "number", true⟩], ?_, by decide⟩
  rw [Document.definitionType, convert_of_object rfl,
    inheritedProperties_reference, inheritedProperties_reference,
    referencedProperties_of_fresh first (by decide),
    referencedProperties_of_fresh second (by decide), inheritedProperties_nil,
    ownProperties_nil]
  simp only [Traced.result_bind, Traced.result_map, convert_animal,
    convert_dog (show "Animal" ∉ ["Dog", "Puppy"] by decide)]
  rfl

end ApiBindings.Conversion
