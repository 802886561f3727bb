import ApiBindings.Proofs.Bindings.Assembly
import ApiBindings.Proofs.Conversion.Target
import ApiBindings.Proofs.Naming

/-!
The imports of finished bindings, told from the document alone: the definitions
that its schemas are lists and maps of, in the order in which they are met.
-/

namespace ApiBindings

open Document (Route)

namespace Document

/-- What an operation responds with in case of success: a response of its own,
or a shared one that it refers to. -/
inductive SuccessResponse (doc : Document) (op : Operation) :
    Response → Prop
  | own {r : Response} (listed : op.responses.get? "200" = some (.inline r)) :
      SuccessResponse doc op r
  | shared {path : String} {r : Response}
      (listed : op.responses.get? "200" = some (.reference path))
      (found : doc.response path = .ok r) :
      SuccessResponse doc op r

def answer? (doc : Document) (op : Operation) : Option Schema :=
  match op.responses.get? "200" with
  | some (.inline own) => own.schema
  | some (.reference path) => (doc.response path).toOption.bind Response.schema
  | none => none

def signatureSchemas (doc : Document) (r : Route) : List Schema :=
  (doc.keptParameters r).map Parameter.typeSchema ++
    (doc.answer? r.operation).toList

def walk (doc : Document) (options : Options) : List Schema :=
  (doc.keptRoutes options).flatMap doc.signatureSchemas ++
    doc.definitions.values

def targetNames (doc : Document) (schemas : List Schema) : List String :=
  (schemas.filterMap (Schema.nested? doc)).map Naming.typeName

variable {doc : Document} {options : Options} {r : Route} {b : Bindings}

theorem successResponse_iff {op : Operation} {r : Response} :
    doc.SuccessResponse op r ↔
      match op.responses.get? "200" with
      | some (.inline own) => own = r
      | some (.reference path) => doc.response path = .ok r
      | none => False := by
  constructor
  · intro answered
    cases answered with
    | own listed => rw [listed]
    | shared listed found =>
        rw [listed]
        exact found
  · intro answered
    split at answered
    case h_1 own listed =>
      subst answered
      exact .own listed
    case h_2 path listed => exact .shared listed answered
    case h_3 => cases answered

theorem successSchema_eq_ok {op : Operation} {s : Schema} :
    doc.successSchema op = .ok s ↔
      ∃ r, doc.SuccessResponse op r ∧ r.schema = some s := by
  simp only [successResponse_iff]
  unfold successSchema
  cases op.responses.get? "200" with
  | none => simp [throw, throwThe, MonadExceptOf.throw]
  | some use =>
      cases use with
      | inline own =>
          cases schema : own.schema <;>
            simp [schema, pure, Except.pure, throw, throwThe,
              MonadExceptOf.throw]
      | reference path =>
          simp only [Outcome.bind_eq_ok, Outcome.mapError_eq_ok]
          refine exists_congr fun r => and_congr_right fun _ => ?_
          cases r.schema <;>
            simp [pure, Except.pure, throw, throwThe, MonadExceptOf.throw]

theorem answer?_eq_some {op : Operation} {s : Schema} :
    doc.answer? op = some s ↔
      ∃ answer, doc.SuccessResponse op answer ∧ answer.schema = some s := by
  simp only [successResponse_iff]
  unfold answer?
  cases op.responses.get? "200" with
  | none => simp
  | some use =>
      cases use with
      | inline own => simp
      | reference path =>
          cases found : doc.response path <;> simp [found, Except.toOption]

theorem answer?_eq (op : Operation) :
    doc.answer? op = (doc.successSchema op).toOption := by
  ext s
  rw [answer?_eq_some, ← successSchema_eq_ok]
  cases doc.successSchema op <;> simp [Except.toOption]

@[simp] theorem targetNames_append (first second : List Schema) :
    doc.targetNames (first ++ second) =
      doc.targetNames first ++ doc.targetNames second := by
  simp [targetNames]

theorem targetNames_flatMap {α : Type} (f : α → List Schema) (xs : List α) :
    doc.targetNames (xs.flatMap f) = xs.flatMap fun x => doc.targetNames (f x) := by
  induction xs with
  | nil => rfl
  | cons x xs induction => simp [induction]

theorem targetNames_map {α : Type} (f : α → Schema) (xs : List α) :
    doc.targetNames (xs.map f) = xs.flatMap fun x => doc.targetNames [f x] := by
  rw [List.map_eq_flatMap, targetNames_flatMap]

theorem targetNames_of_type {active : List String} {s : Schema} {t : TypeExpr}
    (typed : (Conversion.convert doc active s).result = .ok t) :
    t.importTarget.toList = doc.targetNames [s] := by
  rw [Conversion.importTarget_of_convert typed]
  cases target : s.nested? doc <;> simp [targetNames, target]

theorem targetNames_of_failure {active : List String} {s : Schema}
    (failed : ¬ (Conversion.convert doc active s).Succeeds) :
    doc.targetNames [s] = [] := by
  cases target : s.nested? doc with
  | none => simp [targetNames, target]
  | some name =>
      have nest := Schema.nested?_eq_some.mp target
      exact absurd (Conversion.succeeds_of_nestOf nest) failed

theorem targetNames_response (op : Operation) :
    (doc.responseOf options op).2.toList =
      doc.targetNames (doc.answer? op).toList := by
  rw [answer?_eq]
  unfold responseOf successType
  cases found : doc.successSchema op with
  | error e => rfl
  | ok s =>
      rw [Traced.result_bind, Traced.result_ofExcept, Outcome.ok_bind]
      cases typed : (s.toType doc).result with
      | error e =>
          -- A nest of lists and maps has a type, so this schema is none.
          have failed : ¬ (s.toType doc).Succeeds := by
            simp [Traced.Succeeds, typed]
          exact (targetNames_of_failure failed).symm
      | ok t => exact targetNames_of_type typed

theorem targetNames_argument {p : Parameter} {a : Argument}
    (gives : p.Gives doc a) :
    a.type.importTarget.toList = doc.targetNames [p.typeSchema] := by
  obtain ⟨t, typed, rfl⟩ := gives
  exact targetNames_of_type typed

theorem targetNames_declaration {entry : String × Schema}
    {d : TypeDeclaration} (declared : doc.Declares entry d) :
    d.type.importTarget.toList = doc.targetNames [entry.2] := by
  obtain ⟨t, typed, rfl⟩ := declared
  exact targetNames_of_type typed

theorem targetNames_method {m : Method}
    (described : doc.Describes options r m) :
    m.importTargets = doc.targetNames (doc.signatureSchemas r) := by
  obtain ⟨arguments, given, rfl⟩ := described
  have collected := flatMap_eq_of_forall₂ given fun p a gives =>
    (targetNames_argument gives).symm
  calc
    (r.toMethod doc options arguments).importTargets =
        arguments.flatMap (·.type.importTarget.toList) ++
          (doc.responseOf options r.operation).2.toList := by
      rw [Method.importTargets, List.filterMap_eq_flatMap_toList]
      rfl
    _ = (doc.keptParameters r).flatMap
          (fun p => doc.targetNames [p.typeSchema]) ++
          doc.targetNames (doc.answer? r.operation).toList := by
      rw [collected, targetNames_response]
    _ = doc.targetNames (doc.signatureSchemas r) := by
      rw [signatureSchemas, targetNames_append, targetNames_map]

theorem targets_of_assembled (assembled : doc.Assembled options b) :
    b.targets = doc.targetNames (doc.walk options) := by
  have methods := flatMap_eq_of_forall₂ assembled.methods fun r m described =>
    (targetNames_method described).symm
  have definitions := flatMap_eq_of_forall₂ assembled.definitions
    fun entry d declared => (targetNames_declaration declared).symm
  rw [walk, targetNames_append, targetNames_flatMap, methods,
    OrderedMap.values, targetNames_map, definitions]
  rfl

theorem mem_targetNames {schemas : List Schema} {target : String} :
    target ∈ doc.targetNames schemas ↔
      ∃ s ∈ schemas, ∃ name, s.NestOf doc name ∧
        Naming.typeName name = target := by
  simp only [targetNames, List.mem_map, List.mem_filterMap,
    Schema.nested?_eq_some]
  constructor
  · rintro ⟨name, ⟨s, listed, nest⟩, named⟩
    exact ⟨s, listed, name, nest, named⟩
  · rintro ⟨s, listed, name, nest, named⟩
    exact ⟨name, ⟨s, listed, nest⟩, named⟩

/-- Targets are names without containers, and never those of built-in types. -/
theorem target_is_bare {schemas : List Schema} {target : String}
    (listed : target ∈ doc.targetNames schemas) :
    Naming.withoutContainers target = target ∧
      Naming.isBuiltinType target = false := by
  obtain ⟨_, _, name, _, rfl⟩ := mem_targetNames.mp listed
  exact ⟨Naming.withoutContainers_typeName name,
    Naming.not_builtin_typeName name⟩

theorem importNames_targetNames (schemas : List Schema) :
    Bindings.importNames (doc.targetNames schemas) =
      (doc.targetNames schemas).filter (· ≠ "") := by
  have bare : (doc.targetNames schemas).map Naming.withoutContainers =
      doc.targetNames schemas := by
    calc
      _ = (doc.targetNames schemas).map id :=
        List.map_congr_left fun target listed => (target_is_bare listed).1
      _ = doc.targetNames schemas := List.map_id _
  rw [Bindings.importNames, bare]
  refine List.filter_congr fun target listed => ?_
  simp [(target_is_bare listed).2]

theorem imports_of_assembled (assembled : doc.Assembled options b) :
    b.imports =
      ((doc.targetNames (doc.walk options)).filter (· ≠ "")).eraseDups := by
  -- The list starts empty, which is a list without repetitions.
  rw [assembled.imports, targets_of_assembled assembled, ← List.eraseDups_nil,
    Bindings.foldl_addImport, importNames_targetNames]
  rfl

theorem declared_names (assembled : doc.Assembled options b) :
    b.definitions.map (·.name) = doc.definitions.keys.map Naming.typeName := by
  have named := map_eq_of_forall₂ assembled.definitions
    (f := fun entry => Naming.typeName entry.1) (g := (·.name)) ?_
  · rw [← named, OrderedMap.keys, List.map_map]
    rfl
  · rintro entry d ⟨t, _, rfl⟩
    rfl

theorem declared_of_target {schemas : List Schema} {target : String}
    (assembled : doc.Assembled options b)
    (listed : target ∈ doc.targetNames schemas) :
    ∃ d ∈ b.definitions, d.name = target := by
  obtain ⟨_, _, name, nest, rfl⟩ := mem_targetNames.mp listed
  rw [← List.mem_map, declared_names assembled]
  exact List.mem_map_of_mem nest.mem_keys

/-- The methods are those of the kept routes, and the imports are the names of
the definitions that the walk meets under lists and maps, each one where it is
met first. On the walk an operation answers with the schema of its response for
success. -/
theorem imports_follow_the_walk (ok : (doc.bindings options).result = .ok b) :
    List.Forall₂ (doc.Describes options) (doc.keptRoutes options) b.methods ∧
    (∀ op s, doc.answer? op = some s ↔
      ∃ answer, doc.SuccessResponse op answer ∧ answer.schema = some s) ∧
    b.imports =
      ((doc.targetNames (doc.walk options)).filter (· ≠ "")).eraseDups ∧
    (∀ name ∈ b.imports, (∃ d ∈ b.definitions, d.name = name) ∧
      name ∉ ["object", "void", "string", "number", "boolean", "any"] ∧
      '>' ∉ name.toList ∧ ¬ "Array<".toList <:+: name.toList) ∧
    ∀ target ∈ b.targets, Naming.withoutContainers target = target ∧
      Naming.isBuiltinType target = false := by
  have assembled := assembled_of_bindings ok
  have imports := imports_of_assembled assembled
  refine ⟨assembled.methods, fun op s => answer?_eq_some, imports, ?_, ?_⟩
  · intro name member
    rw [imports, List.mem_eraseDups] at member
    have listed := List.mem_of_mem_filter member
    obtain ⟨_, _, raw, _, named⟩ := mem_targetNames.mp listed
    refine ⟨declared_of_target assembled listed, ?_⟩
    subst named
    exact ⟨Naming.not_mem_builtinTypes_typeName raw,
      Naming.not_mem_typeName_of_bracket (by decide) raw,
      Naming.not_infix_array_typeName raw⟩
  · rw [targets_of_assembled assembled]
    exact fun target listed => target_is_bare listed

def pet : Schema :=
  .inline { properties := [("id", .inline { type := some .integer })] }

def shelf : Schema :=
  .inline { additional := some (.values (.reference "#/definitions/Pet")) }

/-- Takes a list of shelves and gives a receipt. The header is not bound. -/
def shelving : Operation :=
  { parameters :=
      [.inline
        { name := "shelves"
          location := .body
          schema := some (.inline
            { type := some .array, items := some (.reference "pet-shelf") }) },
       .inline
        { name := "X-Trace"
          location := .header
          schema := some (.reference "Trace")
          exclusion := { proxyHeader := some (.bool true) } }]
    responses := ⟨[("200", .reference "#/responses/bought")], by decide⟩ }

def tracing : Operation :=
  { responses :=
      ⟨[("200", .inline { schema := some (.reference "Trace") })], by decide⟩ }

def store : Document :=
  { version := supportedVersion
    info := { title := "Pets", version := "1" }
    paths :=
      ⟨[("/traces", { operations := ⟨[(.get, tracing)], by decide⟩ }),
        ("/shelves", { operations := ⟨[(.post, shelving)], by decide⟩ })],
        by decide⟩
    definitions :=
      ⟨[("Pet", pet), ("pet-shelf", shelf), ("Trace", pet), ("Receipt", pet)],
        by decide⟩
    responses := ⟨[("bought", { schema := some (.reference "Receipt") })],
      by decide⟩ }

def onShelves : Options := { pathFilter := some "shelves" }

theorem keptRoutes_store :
    store.keptRoutes onShelves = [⟨"/shelves", .post, shelving, []⟩] := by
  rfl

theorem succeeds_pet {active : List String} :
    (Conversion.convert store active pet).Succeeds := by
  rw [Conversion.convert_of_object rfl, Traced.succeeds_both,
    Conversion.ownProperties_cons, Traced.succeeds_both,
    Conversion.inheritedProperties_nil, Conversion.ownProperties_nil,
    Conversion.convert_of_primitive rfl]
  exact ⟨Traced.succeeds_pure _, Traced.succeeds_pure _, Traced.succeeds_pure _⟩

theorem nestOf_shelf : shelf.NestOf store "Pet" :=
  .map rfl (.reference rfl rfl)

theorem succeeds_store : (store.bindings onShelves).Succeeds := by
  rw [succeeds_bindings]
  refine ⟨rfl, ?_, ?_⟩
  · intro r member use used
    obtain rfl | rfl : r = ⟨"/traces", .get, tracing, []⟩ ∨
        r = ⟨"/shelves", .post, shelving, []⟩ := by
      simpa [routes, store] using member
    · cases used
    · simp only [Route.uses, shelving, List.append_nil, List.mem_cons,
        List.not_mem_nil, or_false] at used
      rw [succeeds_argument]
      rcases used with rfl | rfl
      · refine ⟨_, rfl, ?_⟩
        rintro p ⟨⟩
        exact Conversion.succeeds_of_nestOf
          (.array rfl (.reference rfl rfl))
      · refine ⟨none, rfl, ?_⟩
        simp
  · intro entry member
    simp only [store, List.mem_cons, List.not_mem_nil, or_false] at member
    rcases member with rfl | rfl | rfl | rfl
    · exact succeeds_pet
    · exact Conversion.succeeds_of_nestOf nestOf_shelf
    · exact succeeds_pet
    · exact succeeds_pet

/-- Only the response asks for receipts, and the traces are left out. -/
theorem store_imports_shelves_first :
    ∃ b, (store.bindings onShelves).result = .ok b ∧
      b.imports = ["PetShelf", "Receipt", "Pet"] := by
  obtain ⟨b, ok⟩ := succeeds_store
  obtain ⟨_, answers, imports, _, _⟩ := imports_follow_the_walk ok
  refine ⟨b, ok, ?_⟩
  have answered : store.answer? shelving = some (.reference "Receipt") :=
    (answers _ _).mpr ⟨_, .shared rfl rfl, rfl⟩
  have walked : store.walk onShelves =
      [.inline { type := some .array, items := some (.reference "pet-shelf") },
        .reference "Receipt", pet, shelf, pet, pet] := by
    rw [walk, keptRoutes_store, List.flatMap_singleton, signatureSchemas, answered]
    rfl
  have array : Schema.NestOf store "pet-shelf" (.inline
      { type := some .array, items := some (.reference "pet-shelf") }) :=
    .array rfl (.reference rfl rfl)
  have reference : Schema.NestOf store "Receipt" (.reference "Receipt") :=
    .reference rfl rfl
  have object : pet.nested? store = none := by
    rw [Schema.nested?_eq]
    rfl
  rw [imports, walked, targetNames]
  simp only [List.filterMap_cons, List.filterMap_nil, array.nested?,
    reference.nested?, nestOf_shelf.nested?, object]
  decide

end Document

end ApiBindings
