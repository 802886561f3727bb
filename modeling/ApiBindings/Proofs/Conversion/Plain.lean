import ApiBindings.Proofs.Conversion.Graph
import ApiBindings.Proofs.Tables

/-!
Conversion without a stack. In a document in which no definition inherits from
itself the stack changes nothing: neither a type, nor a failure, nor a message.
-/

namespace ApiBindings.Conversion

/-! The plain conversion as a relation. A parent always gives its properties,
so a definition that inherits from itself has no type at all. -/

mutual
inductive PlainType (doc : Document) : Schema → TypeExpr → Prop
  | reference {s parent : Schema} {path name : String}
      (shape : s.shape = .ok (.reference path))
      (found : doc.definition path = .ok (name, parent)) :
      PlainType doc s
        ((TypeExpr.reference (Naming.typeName name)).describedBy s)
  | choice {s : Schema} {values : List Json}
      (shape : s.shape = .ok (.choice values)) :
      PlainType doc s
        ((TypeExpr.choice (values.map Json.compact)).describedBy s)
  | primitive {s : Schema} {p : Primitive}
      (shape : s.shape = .ok (.primitive p)) :
      PlainType doc s ((TypeExpr.primitive p.name).describedBy s)
  | array {s items : Schema} {t : TypeExpr}
      (shape : s.shape = .ok (.array items))
      (element : PlainType doc items t) :
      PlainType doc s (t.array.describedBy s)
  | map {s values : Schema} {t : TypeExpr}
      (shape : s.shape = .ok (.map values))
      (value : PlainType doc values t) :
      PlainType doc s (t.map.describedBy s)
  | object {s : Schema} {body : SchemaBody Schema}
      {inherited own : List (Property TypeExpr)}
      (shape : s.shape = .ok (.object body))
      (parents : PlainInherited doc body.allOf inherited)
      (members : PlainOwn doc body.required body.properties own) :
      PlainType doc s ((TypeExpr.object (inherited ++ own)).describedBy s)

inductive PlainInherited (doc : Document) :
    List Schema → List (Property TypeExpr) → Prop
  | nil : PlainInherited doc [] []
  | inline {body : SchemaBody Schema} {members : List Schema}
      {t : TypeExpr} {rest : List (Property TypeExpr)}
      (parent : PlainType doc (.inline body) t)
      (others : PlainInherited doc members rest) :
      PlainInherited doc (.inline body :: members) (t.properties ++ rest)
  | reference {path name : String} {s : Schema} {members : List Schema}
      {t : TypeExpr} {rest : List (Property TypeExpr)}
      (found : doc.definition path = .ok (name, s))
      (parent : PlainType doc s t)
      (others : PlainInherited doc members rest) :
      PlainInherited doc (.reference path :: members) (t.properties ++ rest)

inductive PlainOwn (doc : Document) : List String →
    List (String × Schema) → List (Property TypeExpr) → Prop
  | nil {required : List String} : PlainOwn doc required [] []
  | cons {required : List String} {name : String} {s : Schema}
      {properties : List (String × Schema)} {t : TypeExpr}
      {rest : List (Property TypeExpr)} (type : PlainType doc s t)
      (others : PlainOwn doc required properties rest) :
      PlainOwn doc required ((name, s) :: properties)
        (⟨name, t, !required.contains name⟩ :: rest)
end

/-- The body of the definition `child` holds an object, at any depth, that
extends the definition `parent`. -/
inductive Inherits (doc : Document) (child parent : String) : Prop
  | intro {body s t : Schema}
      (entry : doc.definitions.get? child = some body)
      (inside : Relation.ReflTransGen Schema.Holds body s)
      (extended : Extends doc s parent t)

def Acyclic (doc : Document) : Prop :=
  ∀ name, ¬ Relation.TransGen (Inherits doc) name name

/-- A walk from the schema enters the definition `name`. -/
inductive Enters (doc : Document) (s : Schema) (name : String) : Prop
  | intro {t parent : Schema}
      (path : Relation.ReflTransGen (Reads doc) s t)
      (extended : Extends doc t name parent)

/-- The walk from the schema enters none of the definitions being read. -/
def Clear (doc : Document) (active : List String) (s : Schema) : Prop :=
  ∀ name ∈ active, ¬ Enters doc s name

variable {doc : Document} {active other : List String} {s t parent : Schema}
  {name : String}

theorem Enters.of_reads (step : Reads doc s t) (enters : Enters doc t name) :
    Enters doc s name := by
  obtain ⟨path, extended⟩ := enters
  exact ⟨.head step path, extended⟩

theorem Enters.of_extends (extended : Extends doc s name parent) :
    Enters doc s name :=
  ⟨.refl, extended⟩

/-- A walk through bodies of definitions is a chain of inheritance between
them, followed by a walk inside the last one. -/
theorem exists_inherits_of_reads {child : String} {body : Schema}
    (entry : doc.definitions.get? child = some body)
    (path : Relation.ReflTransGen (Reads doc) body t) :
    ∃ last lastBody, Relation.ReflTransGen (Inherits doc) child last ∧
      doc.definitions.get? last = some lastBody ∧
      Relation.ReflTransGen Schema.Holds lastBody t := by
  induction path with
  | refl => exact ⟨child, body, .refl, entry, .refl⟩
  | tail _ step induction =>
      obtain ⟨last, lastBody, chain, lastEntry, inside⟩ := induction
      cases step with
      | part held =>
          exact ⟨last, lastBody, chain, lastEntry, inside.tail held⟩
      | parent extended =>
          have link : Inherits doc last _ := ⟨lastEntry, inside, extended⟩
          exact ⟨_, _, chain.tail link, extended.entry, .refl⟩

theorem inherits_of_enters {child : String} {body : Schema}
    (entry : doc.definitions.get? child = some body)
    (enters : Enters doc body name) :
    Relation.TransGen (Inherits doc) child name := by
  obtain ⟨path, extended⟩ := enters
  obtain ⟨last, lastBody, chain, lastEntry, inside⟩ :=
    exists_inherits_of_reads entry path
  exact .tail' chain ⟨lastEntry, inside, extended⟩

theorem clear_nil : Clear doc [] s := by
  intro name member
  cases member

theorem Clear.part (clear : Clear doc active s) (held : s.Holds t) :
    Clear doc active t := by
  intro name member enters
  exact clear name member (enters.of_reads (.part held))

theorem Clear.fresh (clear : Clear doc active s)
    (extended : Extends doc s name parent) : name ∉ active := by
  intro member
  exact clear name member (.of_extends extended)

theorem clear_of_entry (acyclic : Acyclic doc)
    (entry : doc.definitions.get? name = some s) : Clear doc [name] s := by
  intro other member enters
  obtain rfl := List.mem_singleton.mp member
  exact acyclic other (inherits_of_enters entry enters)

theorem Clear.enter (acyclic : Acyclic doc) (clear : Clear doc active s)
    (extended : Extends doc s name parent) :
    Clear doc (name :: active) parent := by
  intro other member enters
  rcases List.mem_cons.mp member with rfl | older
  · exact clear_of_entry acyclic extended.entry other (by simp) enters
  · exact clear other older (enters.of_reads (.parent extended))

/-- Along the calls of a conversion in an acyclic document the walk ahead stays
clear of the stack. -/
theorem clear_induction (acyclic : Acyclic doc)
    {motive : List String → Schema → Prop}
    (step : ∀ active s, Clear doc active s →
      (∀ t, s.Holds t → motive active t) →
      (∀ name parent, Extends doc s name parent →
        motive (name :: active) parent) → motive active s)
    (clear : Clear doc active s) : motive active s := by
  generalize start : (active, s) = first
  induction first using (wellFounded_calls doc).induction generalizing active s
  next first induction =>
    subst start
    apply step active s clear
    · intro t held
      exact induction (active, t) (.part held) (clear.part held) rfl
    · intro name parent extended
      -- Acyclicity is needed here only: the stack grows by this name.
      exact induction (name :: active, parent)
        (.parent extended (clear.fresh extended))
        (clear.enter acyclic extended) rfl

/-! Both conversions of the lists of an object agree if they agree on every
schema in them. -/

def Agrees (doc : Document) (active : List String) (s : Schema) : Prop :=
  ∀ t, (convert doc active s).result = .ok t ↔ PlainType doc s t

theorem result_referencedProperties_iff {path : String}
    (parents : ∀ name parent, doc.definition path = .ok (name, parent) →
      name ∉ active ∧ Agrees doc (name :: active) parent)
    {given : List (Property TypeExpr)} :
    (referencedProperties doc active path).result = .ok given ↔
      ∃ name parent t, doc.definition path = .ok (name, parent) ∧
        PlainType doc parent t ∧ t.properties = given := by
  cases found : doc.definition path with
  | error e => simp [referencedProperties_of_unresolved found]
  | ok entry =>
      obtain ⟨name, parent⟩ := entry
      obtain ⟨fresh, agrees⟩ := parents name parent found
      rw [referencedProperties_of_fresh found fresh, Traced.result_map,
        Outcome.map_eq_ok]
      constructor
      · rintro ⟨t, converted, rfl⟩
        exact ⟨name, parent, t, rfl, (agrees t).mp converted, rfl⟩
      · rintro ⟨_, _, t, ⟨⟩, plain, rfl⟩
        exact ⟨t, (agrees t).mpr plain, rfl⟩

theorem result_inheritedProperties_iff {members : List Schema}
    (written : ∀ body, .inline body ∈ members → Agrees doc active (.inline body))
    (parents : ∀ path name parent, .reference path ∈ members →
      doc.definition path = .ok (name, parent) →
        name ∉ active ∧ Agrees doc (name :: active) parent)
    {inherited : List (Property TypeExpr)} :
    (inheritedProperties doc active members).result = .ok inherited ↔
      PlainInherited doc members inherited := by
  induction members generalizing inherited with
  | nil =>
      rw [inheritedProperties_nil]
      constructor
      · rintro ⟨⟩
        exact .nil
      · rintro ⟨⟩
        rfl
  | cons member members induction =>
      have rest := fun {ps} => @induction
        (fun body listed => written body (.tail _ listed))
        (fun path name parent listed =>
          parents path name parent (.tail _ listed)) ps
      cases member with
      | inline body =>
          have head := written body (.head _)
          simp only [inheritedProperties_inline, Traced.result_bind,
            Outcome.bind_eq_ok, rest, head _]
          constructor
          · rintro ⟨t, first, ps, others, ⟨⟩⟩
            exact .inline first others
          · rintro (_ | ⟨first, others⟩)
            exact ⟨_, first, _, others, rfl⟩
      | reference path =>
          have head := fun {ps} => @result_referencedProperties_iff doc active
            path (fun name parent => parents path name parent (.head _)) ps
          simp only [inheritedProperties_reference, Traced.result_bind,
            Outcome.bind_eq_ok, rest, head]
          constructor
          · rintro ⟨_, ⟨name, parent, t, found, first, rfl⟩, ps, others, ⟨⟩⟩
            exact .reference found first others
          · rintro (_ | _ | ⟨found, first, others⟩)
            exact ⟨_, ⟨_, _, _, found, first, rfl⟩, _, others, rfl⟩

theorem result_ownProperties_iff {required : List String}
    {properties : List (String × Schema)}
    (members : ∀ name p, (name, p) ∈ properties → Agrees doc active p)
    {own : List (Property TypeExpr)} :
    (ownProperties doc active required properties).result = .ok own ↔
      PlainOwn doc required properties own := by
  induction properties generalizing own with
  | nil =>
      rw [ownProperties_nil]
      constructor
      · rintro ⟨⟩
        exact .nil
      · rintro ⟨⟩
        rfl
  | cons property properties induction =>
      obtain ⟨name, p⟩ := property
      have head := members name p (.head _)
      have rest := fun {ps} => @induction
        (fun name p listed => members name p (.tail _ listed)) ps
      simp only [ownProperties_cons, Traced.result_bind, Outcome.bind_eq_ok,
        rest, head _]
      constructor
      · rintro ⟨t, first, ps, others, ⟨⟩⟩
        exact .cons first others
      · rintro (_ | ⟨first, others⟩)
        exact ⟨_, first, _, others, rfl⟩

theorem agrees_of_clear (acyclic : Acyclic doc)
    (clear : Clear doc active s) : Agrees doc active s := by
  refine clear_induction acyclic ?_ clear
  intro active s clear parts parents t
  have inherited {body : SchemaBody Schema}
      (shape : s.shape = .ok (.object body)) {ps : List (Property TypeExpr)} :
      (inheritedProperties doc active body.allOf).result = .ok ps ↔
        PlainInherited doc body.allOf ps := by
    apply result_inheritedProperties_iff
    · intro member listed
      exact parts _ (.member shape listed)
    · intro path name parent listed found
      have extended : Extends doc s name parent := ⟨shape, listed, found⟩
      exact ⟨clear.fresh extended, parents name parent extended⟩
  have own {body : SchemaBody Schema}
      (shape : s.shape = .ok (.object body)) {ps : List (Property TypeExpr)} :
      (ownProperties doc active body.required body.properties).result = .ok ps ↔
        PlainOwn doc body.required body.properties ps := by
    apply result_ownProperties_iff
    intro name p listed
    exact parts p (.property shape listed)
  constructor
  · intro ran
    cases yields_of_convert ran with
    | reference shape found => exact .reference shape found
    | choice shape => exact .choice shape
    | primitive shape => exact .primitive shape
    | array shape element =>
        exact .array shape ((parts _ (.items shape) _).mp element)
    | map shape value =>
        exact .map shape ((parts _ (.values shape) _).mp value)
    | object shape above below =>
        exact .object shape ((inherited shape).mp above) ((own shape).mp below)
  · intro plain
    cases plain with
    | reference shape found => rw [convert_of_reference shape found]; rfl
    | choice shape => rw [convert_of_choice shape]; rfl
    | primitive shape => rw [convert_of_primitive shape]; rfl
    | array shape element =>
        have converted := (parts _ (.items shape) _).mpr element
        rw [convert_of_array shape, Traced.result_map, converted]
        rfl
    | map shape value =>
        have converted := (parts _ (.values shape) _).mpr value
        rw [convert_of_map shape, Traced.result_map, converted]
        rfl
    | object shape above below =>
        rw [convert_of_object shape]
        simp only [Traced.result_bind, Outcome.bind_eq_ok]
        exact ⟨_, (inherited shape).mpr above, _, (own shape).mpr below, rfl⟩

/-! The conversion is the same for any two stacks that the walk stays clear
of, and it has nothing to say. -/

theorem inheritedProperties_congr {members : List Schema}
    (written : ∀ body, .inline body ∈ members →
      convert doc active (.inline body) = convert doc other (.inline body))
    (parents : ∀ path, .reference path ∈ members →
      referencedProperties doc active path =
        referencedProperties doc other path) :
    inheritedProperties doc active members =
      inheritedProperties doc other members := by
  induction members with
  | nil => rw [inheritedProperties_nil, inheritedProperties_nil]
  | cons member members induction =>
      have rest := induction (fun body listed => written body (.tail _ listed))
        (fun path listed => parents path (.tail _ listed))
      cases member with
      | inline body =>
          rw [inheritedProperties_inline, inheritedProperties_inline, rest,
            written body (.head _)]
      | reference path =>
          rw [inheritedProperties_reference, inheritedProperties_reference,
            rest, parents path (.head _)]

theorem ownProperties_congr {required : List String}
    {properties : List (String × Schema)}
    (members : ∀ name p, (name, p) ∈ properties →
      convert doc active p = convert doc other p) :
    ownProperties doc active required properties =
      ownProperties doc other required properties := by
  induction properties with
  | nil => rw [ownProperties_nil, ownProperties_nil]
  | cons property properties induction =>
      obtain ⟨name, p⟩ := property
      rw [ownProperties_cons, ownProperties_cons, members name p (.head _),
        induction fun name p listed => members name p (.tail _ listed)]

theorem convert_eq_of_clear (acyclic : Acyclic doc)
    (clear : Clear doc active s) (clearOther : Clear doc other s) :
    convert doc active s = convert doc other s := by
  refine clear_induction acyclic
    (motive := fun active s => ∀ other, Clear doc other s →
      convert doc active s = convert doc other s) ?_ clear other clearOther
  intro active s clear parts parents other clearOther
  cases shape : s.shape with
  | error e => rw [convert_of_malformed shape, convert_of_malformed shape]
  | ok kind =>
      cases kind with
      | reference path =>
          cases found : doc.definition path with
          | error e =>
              rw [convert_of_unresolved shape found,
                convert_of_unresolved shape found]
          | ok entry =>
              rw [convert_of_reference shape found,
                convert_of_reference shape found]
      | choice values => rw [convert_of_choice shape, convert_of_choice shape]
      | primitive p =>
          rw [convert_of_primitive shape, convert_of_primitive shape]
      | array items =>
          have held : s.Holds items := .items shape
          rw [convert_of_array shape, convert_of_array shape,
            parts items held _ (clearOther.part held)]
      | map values =>
          have held : s.Holds values := .values shape
          rw [convert_of_map shape, convert_of_map shape,
            parts values held _ (clearOther.part held)]
      | object body =>
          have inherited : inheritedProperties doc active body.allOf =
              inheritedProperties doc other body.allOf := by
            apply inheritedProperties_congr
            · intro member listed
              have held : s.Holds (.inline member) := .member shape listed
              exact parts _ held _ (clearOther.part held)
            · intro path listed
              cases found : doc.definition path with
              | error e =>
                  rw [referencedProperties_of_unresolved found,
                    referencedProperties_of_unresolved found]
              | ok entry =>
                  have extended : Extends doc s entry.1 entry.2 :=
                    ⟨shape, listed, found⟩
                  rw [referencedProperties_of_fresh found
                      (clear.fresh extended),
                    referencedProperties_of_fresh found
                      (clearOther.fresh extended),
                    parents _ _ extended _
                      (clearOther.enter acyclic extended)]
          have own : ownProperties doc active body.required body.properties =
              ownProperties doc other body.required body.properties := by
            apply ownProperties_congr
            intro name p listed
            have held : s.Holds p := .property shape listed
            exact parts p held _ (clearOther.part held)
          rw [convert_of_object shape, convert_of_object shape, inherited, own]

theorem log_inheritedProperties {members : List Schema}
    (written : ∀ body, .inline body ∈ members →
      (convert doc active (.inline body)).log = [])
    (parents : ∀ path, .reference path ∈ members →
      (referencedProperties doc active path).log = []) :
    (inheritedProperties doc active members).log = [] := by
  induction members with
  | nil => rw [inheritedProperties_nil, Traced.log_pure]
  | cons member members induction =>
      have rest := induction (fun body listed => written body (.tail _ listed))
        (fun path listed => parents path (.tail _ listed))
      cases member with
      | inline body =>
          rw [inheritedProperties_inline]
          refine Traced.log_bind_eq_nil (written body (.head _)) fun _ _ => ?_
          exact Traced.log_bind_eq_nil rest fun _ _ => Traced.log_pure _
      | reference path =>
          rw [inheritedProperties_reference]
          refine Traced.log_bind_eq_nil (parents path (.head _)) fun _ _ => ?_
          exact Traced.log_bind_eq_nil rest fun _ _ => Traced.log_pure _

theorem log_ownProperties {required : List String}
    {properties : List (String × Schema)}
    (members : ∀ name p, (name, p) ∈ properties →
      (convert doc active p).log = []) :
    (ownProperties doc active required properties).log = [] := by
  induction properties with
  | nil => rw [ownProperties_nil, Traced.log_pure]
  | cons property properties induction =>
      obtain ⟨name, p⟩ := property
      have rest := induction fun name p listed => members name p (.tail _ listed)
      rw [ownProperties_cons]
      refine Traced.log_bind_eq_nil (members name p (.head _)) fun _ _ => ?_
      exact Traced.log_bind_eq_nil rest fun _ _ => Traced.log_pure _

theorem log_convert_of_clear (acyclic : Acyclic doc)
    (clear : Clear doc active s) : (convert doc active s).log = [] := by
  refine clear_induction acyclic
    (motive := fun active s => (convert doc active s).log = []) ?_ clear
  intro active s clear parts parents
  cases shape : s.shape with
  | error e => rw [convert_of_malformed shape, Traced.log_fail]
  | ok kind =>
      cases kind with
      | reference path =>
          cases found : doc.definition path with
          | error e => rw [convert_of_unresolved shape found, Traced.log_fail]
          | ok entry => rw [convert_of_reference shape found, Traced.log_pure]
      | choice values => rw [convert_of_choice shape, Traced.log_pure]
      | primitive p => rw [convert_of_primitive shape, Traced.log_pure]
      | array items =>
          rw [convert_of_array shape, Traced.log_map]
          exact parts items (.items shape)
      | map values =>
          rw [convert_of_map shape, Traced.log_map]
          exact parts values (.values shape)
      | object body =>
          have inherited : (inheritedProperties doc active body.allOf).log =
              [] := by
            apply log_inheritedProperties
            · intro member listed
              exact parts _ (.member shape listed)
            · intro path listed
              cases found : doc.definition path with
              | error e =>
                  rw [referencedProperties_of_unresolved found, Traced.log_fail]
              | ok entry =>
                  have extended : Extends doc s entry.1 entry.2 :=
                    ⟨shape, listed, found⟩
                  rw [referencedProperties_of_fresh found
                    (clear.fresh extended), Traced.log_map]
                  exact parents _ _ extended
          have own : (ownProperties doc active body.required
              body.properties).log = [] := by
            apply log_ownProperties
            intro name p listed
            exact parts p (.property shape listed)
          rw [convert_of_object shape]
          refine Traced.log_bind_eq_nil inherited fun _ _ => ?_
          exact Traced.log_bind_eq_nil own fun _ _ => Traced.log_pure _

/-- In a document in which no definition inherits from itself the conversion is
the plain one. It never takes a definition that is inherited twice for a cycle,
which it would report. -/
theorem conversion_is_plain (doc : Document) (acyclic : Acyclic doc) :
    (∀ s t, (Schema.toType doc s).result = .ok t ↔ PlainType doc s t) ∧
    (∀ s, (Schema.toType doc s).log = []) ∧
    ∀ name s, (name, s) ∈ doc.definitions.entries →
      doc.definitionType name s = s.toType doc := by
  refine ⟨?_, ?_, ?_⟩
  · intro s t
    exact agrees_of_clear acyclic clear_nil t
  · intro s
    exact log_convert_of_clear acyclic clear_nil
  · intro name s member
    have entry := OrderedMap.mem_entries_iff.mp member
    exact convert_eq_of_clear acyclic (clear_of_entry acyclic entry) clear_nil

theorem acyclic_of_rank (rank : String → Nat)
    (lower : ∀ child parent, Inherits doc child parent →
      rank parent < rank child) : Acyclic doc := by
  intro name cycle
  have descent {child parent : String}
      (chain : Relation.TransGen (Inherits doc) child parent) :
      rank parent < rank child := by
    induction chain with
    | single link => exact lower _ _ link
    | tail _ link induction => exact Nat.lt_trans (lower _ _ link) induction
  exact Nat.lt_irrefl _ (descent cycle)

def animal : Schema :=
  .inline { properties := [("id", .inline { type := some .integer })] }

def dog : Schema := .inline { allOf := [.reference "Animal"] }

/-- Inherits from `Animal` on two ways. -/
def puppy : Schema :=
  .inline { allOf := [.reference "Dog", .reference "Animal"] }

def diamond : Document :=
  { version := Document.supportedVersion
    info := { title := "Pets", version := "1" }
    definitions :=
      ⟨[("Animal", animal), ("Dog", dog), ("Puppy", puppy)], by decide⟩ }

theorem acyclic_diamond : Acyclic diamond := by
  refine acyclic_of_rank (fun name =>
    if name = "Puppy" then 2 else if name = "Dog" then 1 else 0) ?_
  have toAnimal {name : String} {s : Schema}
      (found : diamond.definition "Animal" = .ok (name, s)) :
      name = "Animal" := by
    cases found
    rfl
  have toDog {name : String} {s : Schema}
      (found : diamond.definition "Dog" = .ok (name, s)) : name = "Dog" := by
    cases found
    rfl
  rintro child parent @⟨_, _, t, entry, inside, extended⟩
  have member := OrderedMap.mem_entries_iff.mpr entry
  simp only [diamond, List.mem_cons, Prod.mk.injEq, List.not_mem_nil,
    or_false] at member
  rcases member with ⟨rfl, rfl⟩ | ⟨rfl, rfl⟩ | ⟨rfl, rfl⟩
  · rcases inside.cases_head with rfl | ⟨next, held, rest⟩
    · simp [animal, extends_iff, Schema.shape, SchemaBody.shape,
        SchemaBody.mapValues?] at extended
    · simp only [animal, Schema.holds_iff, Schema.shape, SchemaBody.shape,
        SchemaBody.mapValues?] at held
      obtain rfl : next = .inline { type := some .integer } := by
        simpa using held
      rcases rest.cases_head with rfl | ⟨last, deeper, _⟩
      · simp [extends_iff, Schema.shape, SchemaBody.shape] at extended
      · simp [Schema.holds_iff, Schema.shape, SchemaBody.shape] at deeper
  · rcases inside.cases_head with rfl | ⟨next, held, _⟩
    · have found : diamond.definition "Animal" = .ok (parent, t) := by
        simpa [dog, extends_iff, Schema.shape, SchemaBody.shape,
          SchemaBody.mapValues?] using extended
      simp [toAnimal found]
    · simp [dog, Schema.holds_iff, Schema.shape, SchemaBody.shape,
        SchemaBody.mapValues?] at held
  · rcases inside.cases_head with rfl | ⟨next, held, _⟩
    · have found : diamond.definition "Dog" = .ok (parent, t) ∨
          diamond.definition "Animal" = .ok (parent, t) := by
        simpa [puppy, extends_iff, Schema.shape, SchemaBody.shape,
          SchemaBody.mapValues?] using extended
      rcases found with found | found
      · simp [toDog found]
      · simp [toAnimal found]
    · simp [puppy, Schema.holds_iff, Schema.shape, SchemaBody.shape,
        SchemaBody.mapValues?] at held

theorem diamond_inherits_twice :
    Acyclic diamond ∧
    ("Puppy", puppy) ∈ diamond.definitions.entries ∧
    (diamond.definitionType "Puppy" puppy).log = [] ∧
    ∃ t, (diamond.definitionType "Puppy" puppy).result = .ok t ∧
      t.properties.map Property.name = ["id", "id"] := by
  have member : ("Puppy", puppy) ∈ diamond.definitions.entries :=
    .tail _ (.tail _ (.head _))
  obtain ⟨plain, silent, same⟩ := conversion_is_plain diamond acyclic_diamond
  rw [same "Puppy" puppy member]
  refine ⟨acyclic_diamond, member, silent puppy, ?_⟩
  have root : PlainType diamond animal _ :=
    .object rfl .nil (.cons (.primitive rfl) .nil)
  have middle : PlainType diamond dog _ :=
    .object rfl (.reference rfl root .nil) .nil
  have bottom : PlainType diamond puppy _ :=
    .object rfl (.reference rfl middle (.reference rfl root .nil)) .nil
  exact ⟨_, (plain puppy _).mpr bottom, rfl⟩

end ApiBindings.Conversion
