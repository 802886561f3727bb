import ApiBindings.Bindings.Assembly
import ApiBindings.Proofs.Bindings.Building
import ApiBindings.Proofs.Outcome

/-!
What an assembly gives, failures included. Its two loops are taken apart here
once: each kept route gives one method, each definition one declaration.
-/

namespace ApiBindings

open Document (Route)

def Parameter.Gives (doc : Document) (p : Parameter) (a : Argument) : Prop :=
  ∃ t, (p.typeSchema.toType doc).result = .ok t ∧ a = p.toArgument t

namespace Document

/-- The parameter that is used, unless the use or the parameter itself is
excluded. -/
def keptParameter (doc : Document) (use : ParameterUse) :
    Except ReferenceError (Option Parameter) :=
  if use.isExcluded then .ok none
  else
    let found := match use with
      | .reference path _ => doc.parameter path
      | .inline p => .ok p
    found.map (Option.guard (!·.isExcluded))

def responseOf (doc : Document) (options : Options) (op : Operation) :
    String × Option String :=
  match (doc.successType op).result with
  | .ok t => (t.text, t.importTarget)
  | .error _ => (options.defaultResponseType, none)

/-- The uses of parameters that a route has, its own ones first. -/
def Route.uses (r : Route) : List ParameterUse :=
  r.operation.parameters ++ r.shared

def Route.isKept (options : Options) (r : Route) : Bool :=
  options.pathFilter.all (startsWithSegment r.path)

def Route.toMethod (doc : Document) (options : Options) (r : Route)
    (arguments : List Argument) : Method :=
  { name := r.operation.operationId.elim (Naming.methodName r.verb r.path)
      Naming.identifier
    verb := r.verb
    path := r.path
    pathTemplate := pathTemplate r.path
    summary := r.operation.description.or r.operation.summary
    externalDocs := r.operation.externalDocs
    tags := r.operation.tags
    deprecated := r.operation.deprecated.getD false
    security := Security.flags doc r.operation
    arguments
    headers := doc.fixedHeaders r.operation
    responseType := (doc.responseOf options r.operation).1
    responseImport := (doc.responseOf options r.operation).2 }

def keptParameters (doc : Document) (r : Route) : List Parameter :=
  r.uses.filterMap fun use => (doc.keptParameter use).toOption.join

def keptRoutes (doc : Document) (options : Options) : List Route :=
  doc.routes.filter (Route.isKept options)

def methodOf (doc : Document) (options : Options) (r : Route) :
    Except AssemblyError (Option Method) :=
  (doc.method options r.path r.verb r.operation r.shared).result

def declarationOf (doc : Document) (entry : String × Schema) :
    Except AssemblyError TypeDeclaration :=
  (doc.typeDeclaration entry.1 entry.2).result

def Describes (doc : Document) (options : Options) (r : Route)
    (m : Method) : Prop :=
  ∃ arguments, List.Forall₂ (Parameter.Gives doc) (doc.keptParameters r)
    arguments ∧ m = r.toMethod doc options arguments

def Declares (doc : Document) (entry : String × Schema)
    (d : TypeDeclaration) : Prop :=
  ∃ t, (doc.definitionType entry.1 entry.2).result = .ok t ∧
    d = ⟨Naming.typeName entry.1, entry.2.description, t⟩

variable {doc : Document} {options : Options} {use : ParameterUse}
  {r : Route} {b : Bindings}

/-- The steps that only leave messages behind drop out. -/
theorem result_argument :
    (doc.argument use).result =
      (doc.keptParameter use).mapError .reference >>= fun kept =>
        kept.elim (.ok none) fun p =>
          ((p.typeSchema.toType doc).result.mapError .convert).map fun t =>
            some (p.toArgument t) := by
  unfold argument keptParameter
  by_cases excluded : use.isExcluded
  · rw [if_pos excluded, if_pos excluded]
    rfl
  · rw [if_neg excluded, if_neg excluded]
    cases use with
    | reference path exclusion =>
        cases found : doc.parameter path with
        | error e => simp [found]
        | ok p =>
            by_cases hidden : p.isExcluded
            · simp [found, hidden, Option.guard]
            · cases place : p.location <;>
                simp [found, hidden, place, Option.guard]
    | inline p =>
        have shown : p.isExcluded = false := by
          simpa [ParameterUse.isExcluded] using excluded
        cases place : p.location <;> simp [shown, place, Option.guard]

theorem result_argument_eq_ok {o : Option Argument} :
    (doc.argument use).result = .ok o ↔
      ∃ kept, doc.keptParameter use = .ok kept ∧
        Option.Rel (Parameter.Gives doc) kept o := by
  rw [result_argument]
  simp only [Outcome.bind_eq_ok, Outcome.mapError_eq_ok]
  refine exists_congr fun kept => and_congr_right fun _ => ?_
  cases kept with
  | none =>
      constructor
      · rintro ⟨⟩
        exact .none
      · rintro ⟨⟩
        rfl
  | some p =>
      simp only [Option.elim_some, Outcome.map_eq_ok, Outcome.mapError_eq_ok]
      constructor
      · rintro ⟨t, typed, rfl⟩
        exact .some ⟨t, typed, rfl⟩
      · rintro ⟨t, typed, rfl⟩
        exact ⟨t, typed, rfl⟩

theorem succeeds_argument :
    (doc.argument use).Succeeds ↔
      ∃ kept, doc.keptParameter use = .ok kept ∧
        ∀ p ∈ kept, (p.typeSchema.toType doc).Succeeds := by
  unfold Traced.Succeeds
  constructor
  · rintro ⟨o, ok⟩
    obtain ⟨kept, looked, given⟩ := result_argument_eq_ok.mp ok
    refine ⟨kept, looked, ?_⟩
    rintro p ⟨⟩
    cases given with
    | some gives =>
        obtain ⟨t, typed, _⟩ := gives
        exact ⟨t, typed⟩
  · rintro ⟨kept, looked, typed⟩
    cases kept with
    | none => exact ⟨none, result_argument_eq_ok.mpr ⟨none, looked, .none⟩⟩
    | some p =>
        obtain ⟨t, typed⟩ := typed p rfl
        exact ⟨_, result_argument_eq_ok.mpr
          ⟨some p, looked, .some ⟨t, typed, rfl⟩⟩⟩

theorem result_method :
    doc.methodOf options r =
      (r.uses.mapM doc.argument).result.map fun found =>
        if r.isKept options then
          some (r.toMethod doc options (found.filterMap id))
        else none := by
  unfold methodOf method Route.uses Route.toMethod responseOf Route.isKept
  -- Otherwise the two lists of uses would be traversed one by one.
  generalize (r.operation.parameters ++ r.shared).mapM doc.argument = found
  cases response : (doc.successType r.operation).result <;>
    cases outcome : found.result <;>
    cases filter : options.pathFilter <;>
    simp only [response, outcome, Traced.result_bind, Traced.result_pure,
      Traced.result_attempt, Traced.result_note, Outcome.ok_bind,
      Outcome.error_bind, Outcome.map_ok, Outcome.map_error, Option.all_none,
      Option.all_some, if_true]
  · split <;> rfl
  · split <;> rfl

def record (state : Bindings × Nat) : Option Method → Bindings × Nat
  | none => (state.1, state.2 + 1)
  | some m => (state.1.addMethod m, state.2)

theorem result_addRoute (state : Bindings × Nat) (r : Route) :
    (doc.addRoute options state r).result =
      (doc.methodOf options r).map (record state) := by
  unfold addRoute methodOf
  rw [Traced.result_bind]
  cases (doc.method options r.path r.verb r.operation r.shared).result with
  | error e => rfl
  | ok o =>
      cases o with
      | none => rfl
      | some m =>
          by_cases known : state.1.hasMethod m.name <;> simp [known, record]

theorem result_addDefinition (b : Bindings) (entry : String × Schema) :
    (doc.addDefinition b entry).result =
      (doc.declarationOf entry).map b.addDefinition := by
  unfold addDefinition declarationOf
  rw [Traced.result_bind]
  cases (doc.typeDeclaration entry.1 entry.2).result <;> rfl

theorem declarationOf_eq_ok {entry : String × Schema} {d : TypeDeclaration} :
    doc.declarationOf entry = .ok d ↔ doc.Declares entry d := by
  unfold declarationOf typeDeclaration Declares
  simp only [Traced.result_bind, Outcome.bind_eq_ok, Traced.result_mapError,
    Outcome.mapError_eq_ok, Traced.result_pure, Except.ok.injEq]
  exact exists_congr fun t => and_congr_right fun _ => eq_comm

structure Assembled (doc : Document) (options : Options)
    (b : Bindings) : Prop where
  version : doc.version = supportedVersion
  methods : List.Forall₂ (doc.Describes options) (doc.keptRoutes options)
    b.methods
  definitions : List.Forall₂ doc.Declares doc.definitions.entries b.definitions
  imports : b.imports = b.targets.foldl Bindings.addImport []

theorem gives_of_found {found : List (Option Argument)}
    (ran : (r.uses.mapM doc.argument).result = .ok found) :
    List.Forall₂ (Parameter.Gives doc) (doc.keptParameters r)
      (found.filterMap id) := by
  rw [Traced.result_mapM_eq_ok] at ran
  refine List.rel_filterMap (fun use o outcome => ?_) ran
  obtain ⟨kept, looked, given⟩ := result_argument_eq_ok.mp outcome
  rw [looked]
  exact given

theorem describes_of_method {o : Option Method}
    (ran : doc.methodOf options r = .ok o) :
    Option.Rel (doc.Describes options)
      (Option.guard (Route.isKept options) r) o := by
  rw [result_method, Outcome.map_eq_ok] at ran
  obtain ⟨found, ran, rfl⟩ := ran
  by_cases kept : r.isKept options
  · rw [if_pos kept, Option.guard, if_pos kept]
    exact .some ⟨_, gives_of_found ran, rfl⟩
  · rw [if_neg kept, Option.guard, if_neg kept]
    exact .none

theorem describes_of_outcomes {outcomes : List (Option Method)}
    (ran : List.Forall₂ (fun r o => doc.methodOf options r = .ok o)
      doc.routes outcomes) :
    List.Forall₂ (doc.Describes options) (doc.keptRoutes options)
      (outcomes.filterMap id) := by
  rw [keptRoutes, ← List.filterMap_eq_filter]
  exact List.rel_filterMap (fun r o outcome => describes_of_method outcome) ran

theorem foldl_record (outcomes : List (Option Method))
    (state : Bindings × Nat) :
    (outcomes.foldl record state).1 =
      (outcomes.filterMap id).foldl Bindings.addMethod state.1 := by
  induction outcomes generalizing state with
  | nil => rfl
  | cons o outcomes induction =>
      rw [List.foldl_cons, induction]
      cases o <;> rfl

theorem result_addRoutes (routes : List Route) (state : Bindings × Nat) :
    (routes.foldlM (doc.addRoute options) state).result =
      (routes.mapM (doc.methodOf options)).map fun outcomes =>
        outcomes.foldl record state :=
  Traced.result_foldlM result_addRoute routes state

theorem result_addDefinitions (entries : List (String × Schema))
    (b : Bindings) :
    (entries.foldlM doc.addDefinition b).result =
      (entries.mapM doc.declarationOf).map fun declarations =>
        declarations.foldl Bindings.addDefinition b :=
  Traced.result_foldlM result_addDefinition entries b

/-- An assembly fails for its version, then for the first route that fails and
then for the first definition; otherwise all methods and all declarations are
added in their order. -/
theorem result_bindings (doc : Document) (options : Options) :
    (doc.bindings options).result =
      if doc.version = supportedVersion then do
        let methods ← doc.routes.filterMapM (doc.methodOf options)
        let declarations ← doc.definitions.entries.mapM doc.declarationOf
        return declarations.foldl Bindings.addDefinition
          (methods.foldl Bindings.addMethod
            { info := doc.bindingsInfo options })
      else .error (.unsupportedVersion doc.version) := by
  unfold bindings checkVersion
  by_cases version : doc.version = supportedVersion
  · rw [← filterMap_mapM]
    simp only [version, if_true, Outcome.mapError_ok, Traced.result_bind,
      Traced.result_ofExcept, Traced.result_pure, Traced.result_note,
      Outcome.ok_bind, result_addRoutes, result_addDefinitions]
    cases doc.routes.mapM (doc.methodOf options) with
    | error e => rfl
    | ok outcomes =>
        cases doc.definitions.entries.mapM doc.declarationOf with
        | error e => rfl
        | ok declarations =>
            simp only [Outcome.map_ok, Outcome.ok_bind, Outcome.map_eq_map,
              foldl_record]
            rfl
  · simp [version]

theorem result_bindings_eq_ok :
    (doc.bindings options).result = .ok b ↔
      doc.version = supportedVersion ∧ ∃ outcomes declarations,
        List.Forall₂ (fun r o => doc.methodOf options r = .ok o) doc.routes
          outcomes ∧
        List.Forall₂ doc.Declares doc.definitions.entries declarations ∧
        b = declarations.foldl Bindings.addDefinition
          ((outcomes.filterMap id).foldl Bindings.addMethod
            { info := doc.bindingsInfo options }) := by
  rw [result_bindings]
  by_cases version : doc.version = supportedVersion
  · simp only [version, if_true, true_and, ← filterMap_mapM,
      Outcome.map_eq_map, Outcome.bind_eq_ok, Outcome.map_eq_ok,
      Outcome.mapM_eq_ok, declarationOf_eq_ok]
    constructor
    · rintro ⟨_, ⟨outcomes, routed, rfl⟩, declarations, declared, ⟨⟩⟩
      exact ⟨outcomes, declarations, routed, declared, rfl⟩
    · rintro ⟨outcomes, declarations, routed, declared, rfl⟩
      exact ⟨_, ⟨outcomes, routed, rfl⟩, declarations, declared, rfl⟩
  · simp [version]

/-- An assembly fails only for its version, a use of a parameter or a
definition; a route that is left out counts as well. -/
theorem succeeds_bindings :
    (doc.bindings options).Succeeds ↔
      doc.version = supportedVersion ∧
      (∀ r ∈ doc.routes, ∀ use ∈ r.uses, (doc.argument use).Succeeds) ∧
      ∀ entry ∈ doc.definitions.entries,
        (doc.definitionType entry.1 entry.2).Succeeds := by
  have routed (r : Route) :
      (∃ o, doc.methodOf options r = .ok o) ↔
        ∀ use ∈ r.uses, (doc.argument use).Succeeds := by
    rw [← Traced.succeeds_mapM, result_method]
    simp [Outcome.map_eq_ok, Traced.Succeeds]
  have declared (entry : String × Schema) :
      (∃ d, doc.Declares entry d) ↔
        (doc.definitionType entry.1 entry.2).Succeeds := by
    unfold Declares
    exact ⟨fun ⟨_, t, typed, _⟩ => ⟨t, typed⟩,
      fun ⟨t, typed⟩ => ⟨_, t, typed, rfl⟩⟩
  simp only [← routed, ← declared, ← exists_forall₂_iff]
  simp only [Traced.Succeeds, result_bindings_eq_ok]
  constructor
  · rintro ⟨b, version, outcomes, declarations, all, each, _⟩
    exact ⟨version, ⟨outcomes, all⟩, declarations, each⟩
  · rintro ⟨version, ⟨outcomes, all⟩, declarations, each⟩
    exact ⟨_, version, outcomes, declarations, all, each, rfl⟩

theorem assembled_of_bindings (ok : (doc.bindings options).result = .ok b) :
    doc.Assembled options b := by
  obtain ⟨version, outcomes, declarations, routed, declared, rfl⟩ :=
    result_bindings_eq_ok.mp ok
  rw [Bindings.foldl_addMethod, Bindings.foldl_addDefinition]
  refine ⟨version, ?_, ?_, ?_⟩
  · simpa using describes_of_outcomes routed
  · simpa using declared
  · simp [Bindings.targets, List.foldl_append]

end Document

end ApiBindings
