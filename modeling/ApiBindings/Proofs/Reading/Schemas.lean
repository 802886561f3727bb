import ApiBindings.Proofs.Reading.Records

/-!
Which values are read as schemas, and where in the result a reference stands.
-/

namespace ApiBindings

namespace Reading

inductive Place
  | property (key : String)
  | items
  | base (index : Nat)
  | values

namespace Place

def field : Place → String
  | property _ => "properties"
  | items => "items"
  | base _ => "allOf"
  | values => "additionalProperties"

def inside : Place → Json → Option Json
  | property key, .object members => Entries.find? key members
  | items, .null => none
  | items, j => some j
  | base index, .array parts => parts[index]?
  | values, .null => none
  | values, .bool _ => none
  | values, j => some j
  | _, _ => none

def fields : List String := ["properties", "items", "allOf", "additionalProperties"]

theorem field_mem_fields (place : Place) : place.field ∈ fields := by
  cases place <;> simp [field, fields]

end Place

end Reading

def SchemaBody.at? (body : SchemaBody Schema) : Reading.Place → Option Schema
  | .property key => Entries.find? key body.properties
  | .items => body.items
  | .base index => body.allOf[index]?
  | .values =>
    match body.additional with
    | some (.values schema) => some schema
    | _ => none

def SchemaBody.inner (body : SchemaBody Schema) :=
  (body.properties, body.items, body.allOf, body.additional)

theorem SchemaBody.at?_of_inner {body body' : SchemaBody Schema}
    (same : body.inner = body'.inner) (place : Reading.Place) :
    body.at? place = body'.at? place := by
  simp only [inner, Prod.mk.injEq] at same
  obtain ⟨properties, items, allOf, additional⟩ := same
  cases place with
  | property key => rw [at?, at?, properties]
  | items => rw [at?, at?, items]
  | base index => rw [at?, at?, allOf]
  | values => rw [at?, at?, additional]

def Schema.at? : Schema → Reading.Place → Option Schema
  | .reference _, _ => none
  | .inline body, place => body.at? place

def Schema.follow? : List Reading.Place → Schema → Option Schema
  | [], s => some s
  | place :: path, s => (s.at? place).bind (follow? path)

namespace Json

def reference? : Json → Option String
  | .object members => (Entries.find? "$ref" members).bind asString?
  | _ => none

theorem reference?_of_object {members : List (String × Json)} {path : String} :
    (object members).reference? = some path ↔
      Entries.find? "$ref" members = some (.string path) := by
  rw [reference?, Option.bind_eq_some_iff]
  constructor
  · intro found
    obtain ⟨j, found, string⟩ := found
    cases j with
    | string s =>
        cases string
        exact found
    | _ => cases string
  · intro found
    exact ⟨_, found, rfl⟩

def bodyMembers : Json → List (String × Json)
  | .object members => members
  | .array items => (Reading.bodyForms.zip items).map fun entry => (entry.1.1, entry.2)
  | _ => []

/-- Nothing that stands beside a reference counts. -/
def at? (j : Json) (place : Reading.Place) : Option Json :=
  match j.reference? with
  | some _ => none
  | none => (Entries.find? place.field j.bodyMembers).bind place.inside

def follow? : List Reading.Place → Json → Option Json
  | [], j => some j
  | place :: path, j => (j.at? place).bind (follow? path)

end Json

namespace Reading

/-- Every known member has its form; without names there are not too many. -/
def BodyFits : Json → Prop
  | .object members => KnownFit bodyForms members
  | .array items => items.length ≤ bodyForms.length ∧
      ∀ entry ∈ bodyForms.zip items, Fits entry.1.2 entry.2
  | _ => False

theorem fits_schema_iff {j : Json} :
    Fits .schema j ↔ j.reference?.isSome = true ∨ BodyFits j := by
  constructor
  · intro fits
    cases fits with
    | reference found =>
        left
        rw [Json.reference?, found]
        rfl
    | named known => exact .inr known
    | numbered short fits => exact .inr ⟨short, fits⟩
  · intro either
    rcases either with reference | body
    · cases j with
      | object members =>
          obtain ⟨path, found⟩ := Option.isSome_iff_exists.mp reference
          exact .reference (Json.reference?_of_object.mp found)
      | _ => cases reference
    · cases j with
      | object members => exact .named body
      | array items => exact .numbered body.1 body.2
      | _ => exact body.elim

section Bodies

variable {n : Nat} {R : Json → Schema → Prop}

/-- At every place there is what the members have there. -/
def InStep (R : Json → Schema → Prop) (done : List (String × Json))
    (body : SchemaBody Schema) : Prop :=
  ∀ place : Place,
    Option.Rel R ((Entries.find? place.field done).bind place.inside) (body.at? place)

theorem InStep.aside {done : List (String × Json)} {body body' : SchemaBody Schema}
    {m : String × Json} (step : InStep R done body) (other : m.1 ∉ Place.fields)
    (same : body'.inner = body.inner) :
    InStep R (done ++ [m]) body' := by
  intro place
  have differs : m.1 ≠ place.field := fun here =>
    other (here ▸ place.field_mem_fields)
  rw [Entries.find?_concat, if_neg differs, Option.or_none, SchemaBody.at?_of_inner same]
  exact step place

theorem InStep.inside {done : List (String × Json)} {body body' : SchemaBody Schema}
    {m : String × Json} (step : InStep R done body) (fresh : m.1 ∉ done.map Prod.fst)
    (same : ∀ place : Place, place.field ≠ m.1 → body'.at? place = body.at? place)
    (here : ∀ place : Place, place.field = m.1 →
      Option.Rel R (place.inside m.2) (body'.at? place)) :
    InStep R (done ++ [m]) body' := by
  intro place
  rw [Entries.find?_concat]
  by_cases named : place.field = m.1
  · rw [named, Entries.find?_eq_none.mpr fresh, if_pos rfl]
    exact here place named
  · rw [if_neg (Ne.symm named), Option.or_none, same place named]
    exact step place

theorem fieldTakes_aside {α : Type} {name : String} {read : Datum → Read α}
    {put : SchemaBody Schema → α → SchemaBody Schema} {form : Form}
    {S : Json → α → Prop} (takes : Takes n form S read)
    (other : name ∉ Place.fields)
    (same : ∀ body a, (put body a).inner = body.inner) :
    FieldTakes n (InStep R) (.may name read put) (name, form) where
  name := rfl
  takes j distinct low := by
    change Verdict _ _ (read j.toDatum >>= fun a => pure fun body => put body a)
    rw [bind_pure_comp]
    exact (takes j distinct low).map fun a _ done body _ step =>
      step.aside other (same body a)

theorem fieldTakes_inside {α : Type} {name : String} {read : Datum → Read α}
    {put : SchemaBody Schema → α → SchemaBody Schema} {form : Form}
    {S : Json → α → Prop} (takes : Takes n form S read)
    (same : ∀ body a, ∀ place : Place, place.field ≠ name →
      (put body a).at? place = body.at? place)
    (here : ∀ body a j, S j a → ∀ place : Place, place.field = name →
      Option.Rel R (place.inside j) ((put body a).at? place)) :
    FieldTakes n (InStep R) (.may name read put) (name, form) where
  name := rfl
  takes j distinct low := by
    change Verdict _ _ (read j.toDatum >>= fun a => pure fun body => put body a)
    rw [bind_pure_comp]
    exact (takes j distinct low).map fun a holds done body fresh step =>
      step.inside fresh (same body a) (here body a j holds)

theorem rel_getElem? {items : List Json} {schemas : List Schema}
    (related : List.Forall₂ R items schemas) (index : Nat) :
    Option.Rel R items[index]? schemas[index]? := by
  induction related generalizing index with
  | nil => exact .none
  | cons head _ induction =>
      cases index with
      | zero => exact .some head
      | succ index => exact induction index

variable {read : Datum → Read Schema}

theorem fieldTakes_properties (takes : Takes n .schema R read) :
    FieldTakes n (InStep R)
      (.may "properties" (table read) fun body x => { body with properties := x.entries })
      ("properties", .table .schema) := by
  refine fieldTakes_inside (takes_table takes) (fun body a place other => ?_)
    fun body a j holds place named => ?_
  · cases place with
    | property => exact absurd rfl other
    | _ => rfl
  · obtain ⟨members, rfl, same⟩ := holds
    cases place with
    | property key => exact same key
    | _ => simp [Place.field] at named

theorem fieldTakes_items (takes : Takes n .schema R read) :
    FieldTakes n (InStep R)
      (.may "items" (optional read) fun body x => { body with items := x })
      ("items", .optional .schema) := by
  refine fieldTakes_inside (takes_optional takes) (fun body a place other => ?_)
    fun body a j holds place named => ?_
  · cases place with
    | items => exact absurd rfl other
    | _ => rfl
  · cases place with
    | items =>
        obtain ⟨rfl, rfl⟩ | ⟨s, some, holds, rfl⟩ := holds
        · exact .none
        · have here : Place.items.inside j = Option.some j := by
            cases j with
            | null => exact absurd rfl some
            | _ => rfl
          rw [here]
          exact .some holds
    | _ => simp [Place.field] at named

theorem fieldTakes_bases (takes : Takes n .schema R read) :
    FieldTakes n (InStep R)
      (.may "allOf" (list read) fun body x => { body with allOf := x })
      ("allOf", .list .schema) := by
  refine fieldTakes_inside (takes_list takes) (fun body a place other => ?_)
    fun body a j holds place named => ?_
  · cases place with
    | base => exact absurd rfl other
    | _ => rfl
  · obtain ⟨items, rfl, related⟩ := holds
    cases place with
    | base index => exact rel_getElem? related index
    | _ => simp [Place.field] at named

theorem fieldTakes_values (takes : Takes n .schema R read) :
    FieldTakes n (InStep R)
      (.may "additionalProperties" (optional (additional read)) fun body x =>
        { body with additional := x })
      ("additionalProperties", .optional .additional) := by
  refine fieldTakes_inside (takes_optional (takes_additional takes))
    (fun body a place other => ?_) fun body a j holds place named => ?_
  · cases place with
    | values => exact absurd rfl other
    | _ => rfl
  · cases place with
    | values =>
        obtain ⟨rfl, rfl⟩ | ⟨a, some, either, rfl⟩ := holds
        · exact .none
        · obtain ⟨b, rfl, rfl⟩ | ⟨s, noFlag, holds, rfl⟩ := either
          · exact .none
          · have here : Place.values.inside j = Option.some j := by
              cases j with
              | null => exact absurd rfl some
              | bool b => exact absurd rfl (noFlag b)
              | _ => rfl
            rw [here]
            exact .some holds
    | _ => simp [Place.field] at named

theorem takes_schemaType : Takes n .text (fun _ _ => True) schemaType := by
  intro j distinct low
  exact (takes_text j distinct low).map fun _ _ => trivial

theorem fieldTakes_bodyFields (takes : Takes n .schema R read) :
    List.Forall₂ (FieldTakes n (InStep R)) (bodyFields read) bodyForms := by
  have type := takes_optional (takes_schemaType (n := n))
  have text := takes_optional (takes_text (n := n))
  have flag := takes_optional (takes_flag (n := n))
  have json := takes_optional (takes_json (n := n))
  exact .cons (fieldTakes_aside type (by decide) fun _ _ => rfl) <|
    .cons (fieldTakes_aside text (by decide) fun _ _ => rfl) <|
    .cons (fieldTakes_aside text (by decide) fun _ _ => rfl) <|
    .cons (fieldTakes_aside text (by decide) fun _ _ => rfl) <|
    .cons (fieldTakes_aside json (by decide) fun _ _ => rfl) <|
    .cons (fieldTakes_properties takes) <|
    .cons (fieldTakes_aside (takes_list takes_text) (by decide) fun _ _ => rfl) <|
    .cons (fieldTakes_values takes) <|
    .cons (fieldTakes_items takes) <|
    .cons (fieldTakes_bases takes) <|
    .cons (fieldTakes_aside (takes_list takes_json) (by decide) fun _ _ => rfl) <|
    .cons (fieldTakes_aside text (by decide) fun _ _ => rfl) <|
    .cons (fieldTakes_aside flag (by decide) fun _ _ => rfl) <|
    .cons (fieldTakes_aside json (by decide) fun _ _ => rfl) .nil

theorem inStep_nil : InStep R [] {} := by
  intro place
  cases place <;> exact .none

theorem inStep_unknown (done : List (String × Json)) (body : SchemaBody Schema)
    (m : String × Json) (unknown : Entries.find? m.1 bodyForms = none)
    (step : InStep R done body) : InStep R (done ++ [m]) body := by
  refine step.aside (fun listed => ?_) rfl
  have known : ∀ name ∈ Place.fields, Entries.find? name bodyForms ≠ none := by
    decide
  exact known m.1 listed unknown

theorem verdict_body (takes : Takes n .schema R read) {j : Json}
    (distinct : j.Distinct) (low : j.toDatum.height < n + 1) :
    Verdict (BodyFits j) (InStep R j.bodyMembers)
      (record {} (bodyFields read) j.toDatum) := by
  have fit := fieldTakes_bodyFields takes
  have optional : ∀ field ∈ bodyFields read, field.required = false := by
    simp [bodyFields, Field.may]
  cases distinct with
  | @object members keys inner =>
      have each := Json.members_below inner low
      refine (verdict_record_named fit inStep_unknown keys each inStep_nil).imp
        (and_iff_left ?_) fun _ => id
      intro field listed required
      cases (optional field listed).symm.trans required
  | @array items inner =>
      have each := Json.items_below inner low
      exact verdict_record_numbered fit optional (by decide) each inStep_nil
  | _ => exact .refused id

/-- The text under `$ref` is what has been read last. -/
def PathRead (done : List (String × Json)) (path : String) : Prop :=
  ∀ j, Entries.find? "$ref" done = some j → j = .string path

theorem pathRead_nil (path : String) : PathRead [] path := by
  intro j found
  cases found

theorem fieldTakes_path :
    FieldTakes n PathRead (.must "$ref" Source.text fun _ path => path)
      ("$ref", .text) where
  name := rfl
  takes j distinct low := by
    change Verdict _ _ (Source.text j.toDatum >>= fun path => pure fun _ => path)
    rw [bind_pure_comp]
    refine (takes_text j distinct low).map fun path same done _ fresh _ j' found => ?_
    rw [Entries.find?_concat, Entries.find?_eq_none.mpr fresh, if_pos rfl] at found
    cases found
    exact same

theorem pathRead_unknown (done : List (String × Json)) (path : String)
    (m : String × Json) (unknown : Entries.find? m.1 [("$ref", Form.text)] = none)
    (read : PathRead done path) : PathRead (done ++ [m]) path := by
  intro j found
  have other : m.1 ≠ "$ref" := by
    intro same
    rw [same] at unknown
    cases unknown
  rw [Entries.find?_concat, if_neg other, Option.or_none] at found
  exact read j found

/-- A reference is read of nothing but an object with a text for it. -/
theorem verdict_reference {j : Json} (distinct : j.Distinct) :
    Verdict (j.reference?.isSome = true) (fun path => j.reference? = some path)
      (referencePath j.toDatum) := by
  cases distinct with
  | @object members keys inner =>
      have each := Json.members_below inner (Nat.lt_succ_self _)
      change Verdict _ _ (record "" [.must "$ref" Source.text fun _ path => path] _)
      obtain ⟨⟨known, present⟩, path, read, same⟩ | ⟨misfits, fault, same⟩ :=
        verdict_record_named (.cons fieldTakes_path .nil) pathRead_unknown keys each
          (pathRead_nil "")
      · have listed := present _ List.mem_cons_self rfl
        obtain ⟨j, found⟩ := Option.ne_none_iff_exists'.mp
          (mt Entries.find?_eq_none.mp (not_not_intro listed))
        cases read j found
        have reference := Json.reference?_of_object.mpr found
        rw [same]
        exact .taken (Option.isSome_of_eq_some reference) reference
      · rw [same]
        refine .refused fun reference => misfits ?_
        obtain ⟨path, found⟩ := Option.isSome_iff_exists.mp reference
        have listed := Entries.mem_of_find? (Json.reference?_of_object.mp found)
        refine ⟨fun m member form known => ?_, fun field alone _ => ?_⟩
        · rw [Entries.find?] at known
          split at known
          next named =>
              obtain ⟨name, j⟩ := m
              cases known
              cases named
              have both := (Entries.find?_of_mem keys member).symm.trans
                (Entries.find?_of_mem keys listed)
              cases both
              exact .text path
          next => cases known
        · cases List.mem_singleton.mp alone
          exact List.mem_map.mpr ⟨_, listed, rfl⟩
  | _ => exact .refused Bool.false_ne_true

end Bodies

/-- The schema is a reference if the value is one; if not, all that is known of
the value is as it has to be. -/
structure Exact (j : Json) (s : Schema) : Prop where
  reference (path : String) : s = .reference path ↔ j.reference? = some path
  known : j.reference? = none → BodyFits j

/-- Wherever a path leads in the value, it leads in the schema to what was read
there. -/
def ReadThroughout (j : Json) (s : Schema) : Prop :=
  ∀ path, Option.Rel Exact (j.follow? path) (s.follow? path)

theorem readThroughout_reference {j : Json} {path : String}
    (reference : j.reference? = some path) : ReadThroughout j (.reference path) := by
  intro places
  cases places with
  | nil =>
      refine .some ⟨fun path' => ?_, fun none => ?_⟩
      · rw [reference, Schema.reference.injEq, Option.some.injEq]
      · cases none.symm.trans reference
  | cons place places =>
      rw [Json.follow?, Json.at?, reference]
      exact .none

theorem readThroughout_inline {j : Json} {body : SchemaBody Schema}
    (none : j.reference? = none) (fits : BodyFits j)
    (step : InStep ReadThroughout j.bodyMembers body) :
    ReadThroughout j (.inline body) := by
  intro places
  cases places with
  | nil =>
      refine .some ⟨fun path => ?_, fun _ => fits⟩
      rw [none]
      exact ⟨nofun, nofun⟩
  | cons place places =>
      have here := step place
      rw [Json.follow?, Json.at?, none, Schema.follow?, Schema.at?]
      dsimp only
      revert here
      generalize (Entries.find? place.field j.bodyMembers).bind place.inside = x
      generalize body.at? place = y
      intro here
      cases here with
      | some inner => exact inner places
      | none => exact .none

theorem takes_schemaWithin (n : Nat) :
    Takes n .schema ReadThroughout (schemaWithin n) := by
  -- The induction is on the bound, which falls with the height of what is read.
  induction n with
  | zero => exact fun _ _ low => absurd low (Nat.not_lt_zero _)
  | succ n induction =>
      intro j distinct low
      have reference : Verdict (j.reference?.isSome = true) (ReadThroughout j)
          (Schema.reference <$> referencePath j.toDatum) :=
        (verdict_reference distinct).map fun _ found => readThroughout_reference found
      have inline : Verdict (BodyFits j)
          (fun s => ∃ body, InStep ReadThroughout j.bodyMembers body ∧ s = .inline body)
          (Schema.inline <$> record {} (bodyFields (schemaWithin n)) j.toDatum) :=
        (verdict_body induction distinct low).map fun body step => ⟨body, step, rfl⟩
      -- A body is only read of what is no reference.
      refine (reference.orElse inline).imp fits_schema_iff.symm fun s either => ?_
      obtain ⟨_, here⟩ | ⟨other, fits, body, step, rfl⟩ := either
      · exact here
      · exact readThroughout_inline (Option.not_isSome_iff_eq_none.mp other) fits step

theorem ReadThroughout.exact {j : Json} {s : Schema} (read : ReadThroughout j s) :
    Exact j s := by
  have here := read []
  cases here with
  | some exact => exact exact

theorem verdict_schema {ν : Type} [Source ν] {v : ν} {j : Json}
    (whole : Source.datum v = pure j.toDatum) (distinct : j.Distinct) :
    Verdict (Fits .schema j) (ReadThroughout j) (schema v) := by
  rw [schema, whole, pure_bind]
  exact takes_schemaWithin _ j distinct (Nat.lt_succ_self _)

end Reading

namespace Json.Node

open Reading

mutual

/-- What is read of a JSON text in full is a free-form value. -/
theorem json_of_readDatum {depth : Nat} {d : Datum} :
    ∀ t : Tree, Gives (readDatum depth t) d → ∃ j : Json, d = j.toDatum
  | .broken, gives => absurd gives (not_gives_throw _)
  | .null, gives => ⟨.null, (gives_pure.mp gives).symm⟩
  | .bool b, gives => ⟨.bool b, (gives_pure.mp gives).symm⟩
  | .number n, gives => by
      rw [readDatum] at gives
      split at gives
      next j _ => exact ⟨j, (gives_pure.mp gives).symm⟩
      next => exact absurd gives (not_gives_throw _)
  | .text none, gives => absurd gives (not_gives_throw _)
  | .text (some s), gives => ⟨.string s, (gives_pure.mp gives).symm⟩
  | .array items closed, gives => by
      cases depth with
      | zero => exact absurd gives (not_gives_throw _)
      | succ depth =>
          obtain ⟨ds, read, gives⟩ := gives_bind gives
          obtain ⟨_, _, gives⟩ := gives_bind gives
          obtain ⟨js, rfl⟩ := json_of_readDatumItems items read
          exact ⟨.array js, (gives_pure.mp gives).symm⟩
  | .object members closed, gives => by
      cases depth with
      | zero => exact absurd gives (not_gives_throw _)
      | succ depth =>
          obtain ⟨table, read, gives⟩ := gives_bind gives
          obtain ⟨_, _, gives⟩ := gives_bind gives
          obtain ⟨ms, rfl⟩ := json_of_readDatumMembers members read
          exact ⟨.object ms, (gives_pure.mp gives).symm⟩

theorem json_of_readDatumItems {depth : Nat} {ds : List Datum} :
    ∀ items : List Tree, Gives (readDatumItems depth items) ds →
      ∃ js : List Json, ds = itemsToDatum js
  | [], gives => ⟨[], (gives_pure.mp gives).symm⟩
  | t :: items, gives => by
      obtain ⟨d, read, gives⟩ := gives_bind gives
      obtain ⟨rest, others, gives⟩ := gives_bind gives
      obtain ⟨j, rfl⟩ := json_of_readDatum t read
      obtain ⟨js, rfl⟩ := json_of_readDatumItems items others
      exact ⟨j :: js, (gives_pure.mp gives).symm⟩

theorem json_of_readDatumMembers {depth : Nat} {table : List (Datum × Datum)} :
    ∀ members : List (Option String × Tree),
      Gives (readDatumMembers depth members) table →
        ∃ ms : List (String × Json), table = membersToDatum ms
  | [], gives => ⟨[], (gives_pure.mp gives).symm⟩
  | (key, t) :: members, gives => by
      obtain ⟨k, d, rest, rfl, read, others, rfl⟩ := gives_readDatumMembers_cons gives
      obtain ⟨j, rfl⟩ := json_of_readDatum t read
      obtain ⟨ms, rfl⟩ := json_of_readDatumMembers members others
      exact ⟨(k, j) :: ms, rfl⟩

end

end Json.Node

namespace Reading

/-- An object whose keys are distinct at every level is read as a reference if
there is a text for one in it, whatever stands beside. Any other is read as a
schema if all that is known has its form, and is refused if not. So it is for
all values inside that are read as schemas. Every JSON value that can be read in
full is of the kind told of here. -/
theorem references_read_where_written :
    (∀ (ν : Type) [Source ν] (v : ν) (members : List (String × Json)),
        Source.datum v = pure (Json.object members).toDatum →
        (Json.object members).Distinct →
        (∀ path, schema v = pure (.reference path) ↔
            Entries.find? "$ref" members = some (.string path)) ∧
          ((∀ path, Entries.find? "$ref" members ≠ some (.string path)) →
            (KnownFit bodyForms members → ∃ body, schema v = pure (.inline body)) ∧
              (¬KnownFit bodyForms members → ∃ fault, schema v = throw fault)) ∧
          ∀ s, schema v = pure s → ∀ places,
            Option.Rel Exact ((Json.object members).follow? places)
              (s.follow? places)) ∧
      ∀ (v : Json.Node) (d : Datum), Gives (Source.datum v) d →
        ∃ j : Json, d = j.toDatum ∧ Source.datum v = pure j.toDatum := by
  constructor
  · intro ν _ v members whole distinct
    have verdict := verdict_schema whole distinct
    have noReference : (∀ path, Entries.find? "$ref" members ≠ some (.string path)) →
        (Json.object members).reference? = none := fun other =>
      Option.eq_none_iff_forall_not_mem.mpr fun path found =>
        other path (Json.reference?_of_object.mp found)
    refine ⟨fun path => ?_, fun other => ⟨fun known => ?_, fun unknown => ?_⟩, ?_⟩
    · rw [← Json.reference?_of_object]
      constructor
      · intro read
        exact ((verdict.of_eq_pure read).2.exact.reference path).mp rfl
      · intro found
        obtain ⟨s, throughout, read⟩ := verdict.gets_through
          (fits_schema_iff.mpr (.inl (Option.isSome_of_eq_some found)))
        rw [read, (throughout.exact.reference path).mpr found]
    · obtain ⟨s, throughout, read⟩ := verdict.gets_through (fits_schema_iff.mpr (.inr known))
      cases s with
      | reference path =>
          cases (noReference other).symm.trans ((throughout.exact.reference path).mp rfl)
      | inline body => exact ⟨body, read⟩
    · refine verdict.fails fun fits => unknown ?_
      rcases fits_schema_iff.mp fits with reference | known
      · rw [noReference other] at reference
        cases reference
      · exact known
    · intro s read
      exact (verdict.of_eq_pure read).2
  · intro v d gives
    have whole := (Json.Node.whole_of_readDatum v.tree gives).1
    obtain ⟨j, rfl⟩ := Json.Node.json_of_readDatum v.tree gives
    exact ⟨j, rfl, whole⟩

/-- A pot that has no type that is one, but may have a reference. -/
def pot (clay : Json) : List (String × Json) :=
  [("type", .bool false), ("$ref", clay)]

/-- A kiln with the pot in it, whose own reference is no text. -/
def kiln (clay : Json) : List (String × Json) :=
  [("$ref", .bool true), ("properties", .object [("pot", .object (pot clay))])]

def kilnNode (clay : Json.Tree) : Json.Node :=
  ⟨.object [(some "$ref", .bool true), (some "properties", .object [(some "pot",
    .object [(some "type", .bool false), (some "$ref", clay)] true)] true)] true, 9⟩

theorem distinct_kiln {clay : Json} (distinct : clay.Distinct) :
    (Json.object (kiln clay)).Distinct := by
  have inner : (Json.object (pot clay)).Distinct := by
    refine .object (by simp [pot]) ?_
    simp only [pot, List.forall_mem_cons]
    exact ⟨.bool false, distinct, List.forall_mem_nil _⟩
  refine .object (by simp [kiln]) ?_
  simp only [kiln, List.forall_mem_cons]
  refine ⟨.bool true, .object (by simp) ?_, List.forall_mem_nil _⟩
  simp only [List.forall_mem_cons]
  exact ⟨inner, List.forall_mem_nil _⟩

theorem kiln_is_no_reference (clay : Json) (path : String) :
    Entries.find? "$ref" (kiln clay) ≠ some (.string path) := by
  intro found
  cases found

theorem kiln_refers_to_clay :
    (∃ body,
        schema (kilnNode (.text (some "#/definitions/Clay"))) = pure (.inline body) ∧
          (Schema.inline body).follow? [.property "pot"] =
            some (.reference "#/definitions/Clay")) ∧
      ∃ fault, schema (kilnNode .null) = throw fault := by
  constructor
  · obtain ⟨-, written, throughout⟩ := references_read_where_written.1 Json.Node
      (kilnNode (.text (some "#/definitions/Clay"))) (kiln (.string "#/definitions/Clay"))
      rfl (distinct_kiln (.string _))
    have known : KnownFit bodyForms (kiln (.string "#/definitions/Clay")) := by
      simp only [KnownFit, kiln, List.forall_mem_cons]
      refine ⟨fun form known => ?_, fun form known => ?_, List.forall_mem_nil _⟩
      · cases known
      · cases known
        refine .table ?_
        simp only [List.forall_mem_cons]
        exact ⟨.reference rfl, List.forall_mem_nil _⟩
    obtain ⟨body, read⟩ := (written (kiln_is_no_reference _)).1 known
    refine ⟨body, read, ?_⟩
    have inner := throughout _ read [.property "pot"]
    have place : (Json.object (kiln (.string "#/definitions/Clay"))).follow?
        [.property "pot"] = some (.object (pot (.string "#/definitions/Clay"))) := rfl
    rw [place] at inner
    generalize (Schema.inline body).follow? [.property "pot"] = s at inner ⊢
    cases inner with
    | some exact => rw [(exact.reference "#/definitions/Clay").mpr rfl]
  · obtain ⟨-, written, -⟩ := references_read_where_written.1 Json.Node
      (kilnNode .null) (kiln .null) rfl (distinct_kiln .null)
    refine (written (kiln_is_no_reference _)).2 fun known => ?_
    have fits := known _ (List.mem_cons_of_mem _ List.mem_cons_self) _ rfl
    cases fits with
    | table fits =>
        cases fits _ List.mem_cons_self with
        | reference found => cases found
        | named known =>
            cases known _ List.mem_cons_self _ rfl with
            | present fits => cases fits

end Reading

end ApiBindings
