import ApiBindings.Proofs.Bindings.Imports
import ApiBindings.Proofs.Bindings.Records
import ApiBindings.Proofs.Bindings.Uses
import ApiBindings.Proofs.Tables

/-!
Responses of operations. Whatever responses an operation has, an assembly goes
on as it does with others: they have an effect on the response of its method and
on the imports, and on nothing else.
-/

namespace ApiBindings

open Document (Route)

/-- The method with another response, if it is the one of this path and verb. -/
def Method.answering (path : String) (verb : Verb)
    (response : String × Option String) (m : Method) : Method :=
  if m.path = path ∧ m.verb = verb then
    { m with responseType := response.1, responseImport := response.2 }
  else m

/-- Bindings that differ in the response of one method and in the imports. -/
structure Bindings.AgreeBut (path : String) (verb : Verb)
    (b changed : Bindings) : Prop where
  methods : ∃ response,
    changed.methods = b.methods.map (Method.answering path verb response)
  definitions : changed.definitions = b.definitions
  info : changed.info = b.info
  security : changed.security = b.security

namespace Document

def withResponses (doc : Document) (path : String) (verb : Verb)
    (responses : OrderedMap String ResponseUse) : Document :=
  doc.withUses
    (doc.paths.update path fun item =>
      { item with
        operations := item.operations.update verb fun op =>
          { op with responses } })
    doc.parameters

def Route.withResponses (path : String) (verb : Verb)
    (responses : OrderedMap String ResponseUse) (r : Route) : Route :=
  if r.path = path ∧ r.verb = verb then
    { r with operation := { r.operation with responses } }
  else r

def Answers (doc : Document) (op : Operation) (t : TypeExpr) : Prop :=
  ∃ r s, doc.SuccessResponse op r ∧ r.schema = some s ∧
    (s.toType doc).result = .ok t

variable {doc : Document} {options : Options} {path : String} {verb : Verb}
  {responses : OrderedMap String ResponseUse}

theorem successType_eq_ok {op : Operation} {t : TypeExpr} :
    (doc.successType op).result = .ok t ↔ doc.Answers op t := by
  unfold successType Answers
  simp only [Traced.result_bind, Traced.result_ofExcept, Outcome.bind_eq_ok,
    successSchema_eq_ok]
  constructor
  · rintro ⟨s, ⟨r, answered, schema⟩, typed⟩
    exact ⟨r, s, answered, schema, typed⟩
  · rintro ⟨r, s, answered, schema, typed⟩
    exact ⟨s, ⟨r, answered, schema⟩, typed⟩

theorem routes_withResponses :
    (doc.withResponses path verb responses).routes =
      doc.routes.map (Route.withResponses path verb responses) := by
  unfold routes withResponses OrderedMap.update
  rw [List.flatMap_map, List.map_flatMap]
  congr 1
  funext entry
  by_cases here : entry.1 = path
  · simp only [here, if_true, List.map_map]
    congr 1
    funext operation
    by_cases same : operation.1 = verb <;>
      simp [Route.withResponses, same]
  · simp only [here, if_false, List.map_map]
    congr 1
    funext operation
    simp [Route.withResponses, here]

theorem responseOf_congr {op other : Operation}
    (same : op.responses = other.responses) :
    doc.responseOf options op = doc.responseOf options other := by
  unfold responseOf successType successSchema
  rw [same]

theorem methodOf_withResponses (r : Route) :
    doc.methodOf options (r.withResponses path verb responses) =
      (doc.methodOf options r).map (Option.bind · fun m =>
        some (m.answering path verb
          (doc.responseOf options { responses }))) := by
  have uses : (r.withResponses path verb responses).argumentsIn doc =
      r.argumentsIn doc := by
    unfold Route.withResponses
    split <;> rfl
  have kept : (r.withResponses path verb responses).isKept options =
      r.isKept options := by
    unfold Route.withResponses
    split <;> rfl
  have built (arguments : List Argument) :
      (r.withResponses path verb responses).toMethod doc options arguments =
        (r.toMethod doc options arguments).answering path verb
          (doc.responseOf options { responses }) := by
    unfold Route.withResponses Method.answering
    by_cases here : r.path = path ∧ r.verb = verb
    · have changed : doc.responseOf options
            { r.operation with responses := responses } =
          doc.responseOf options { responses } := responseOf_congr rfl
      simp only [Route.toMethod, here, and_self, if_true, changed]
      rfl
    · simp only [Route.toMethod, here, if_false]
  rw [methodOf_eq, methodOf_eq, uses, kept]
  cases r.argumentsIn doc with
  | error e => rfl
  | ok arguments =>
      cases r.isKept options <;> simp [built]

theorem result_withResponses :
    ((doc.withResponses path verb responses).bindings options).result =
      (doc.bindings options).result.map (Bindings.filterMapMethods fun m =>
        some (m.answering path verb
          (doc.responseOf options { responses }))) := by
  apply result_bindings_filterMapMethods
  · rfl
  · rfl
  · rw [withResponses, declarationOf_withUses]
  · rw [← Outcome.filterMapM_bind, routes_withResponses, filterMapM_map]
    apply filterMapM_congr_of_mem
    intro r _
    rw [withResponses, methodOf_withPaths, methodOf_withResponses]

theorem needs_answering (mechanism : SecurityFlags → Bool)
    (response : String × Option String) (m : Method) :
    Bindings.needs mechanism (m.answering path verb response) =
      Bindings.needs mechanism m := by
  unfold Method.answering
  split <;> rfl

theorem agreeBut_answering (path : String) (verb : Verb)
    (response : String × Option String)
    (info : BindingsInfo) (methods : List Method)
    (definitions : List TypeDeclaration) :
    (Bindings.ofRecords info methods definitions).AgreeBut path verb
      ((Bindings.ofRecords info methods definitions).filterMapMethods
        fun m => some (m.answering path verb response)) := by
  have kept : (Bindings.ofRecords info methods definitions).filterMapMethods
        (fun m => some (m.answering path verb response)) =
      .ofRecords info (methods.map (Method.answering path verb response))
        definitions := by
    simp [Bindings.filterMapMethods]
  rw [kept, Bindings.ofRecords_eq, Bindings.ofRecords_eq]
  refine ⟨⟨response, rfl⟩, rfl, rfl, ?_⟩
  simp [List.any_map, Function.comp_def, needs_answering]

theorem responseOf_cases (options : Options) (op : Operation) :
    (∃ t, doc.Answers op t ∧
      doc.responseOf options op = (t.text, t.importTarget)) ∨
    ((∀ t, ¬ doc.Answers op t) ∧
      doc.responseOf options op = (options.defaultResponseType, none)) := by
  unfold responseOf
  cases outcome : (doc.successType op).result with
  | ok t => exact .inl ⟨t, successType_eq_ok.mp outcome, rfl⟩
  | error e =>
      refine .inr ⟨fun t answers => ?_, rfl⟩
      rw [← successType_eq_ok, outcome] at answers
      cases answers

/-- Other responses of one operation let an assembly fail or succeed as before,
and change the response of its method and the imports only. A method has the
type of what its operation responds with, or the default where there is none. -/
theorem responses_stay_contained (doc : Document) (options : Options) :
    (∀ path verb responses,
      (∀ e, ((doc.withResponses path verb responses).bindings options).result =
          .error e ↔ (doc.bindings options).result = .error e) ∧
      ∀ b, (doc.bindings options).result = .ok b →
        ∃ changed, ((doc.withResponses path verb responses).bindings
            options).result = .ok changed ∧
          b.AgreeBut path verb changed) ∧
    ∀ b, (doc.bindings options).result = .ok b →
      List.Forall₂ (fun r m => m.path = r.path ∧ m.verb = r.verb ∧
          (∀ t, doc.Answers r.operation t →
            m.responseType = t.text ∧ m.responseImport = t.importTarget) ∧
          ((∀ t, ¬ doc.Answers r.operation t) →
            m.responseType = options.defaultResponseType ∧
              m.responseImport = none))
        (doc.keptRoutes options) b.methods := by
  refine ⟨fun path verb responses => ⟨?_, ?_⟩, ?_⟩
  · intro e
    rw [result_withResponses]
    cases (doc.bindings options).result <;> simp
  · intro b ok
    refine ⟨_, by rw [result_withResponses, ok, Outcome.map_ok], ?_⟩
    have agree := agreeBut_answering path verb
      (doc.responseOf options { responses }) b.info b.methods b.definitions
    rwa [← eq_ofRecords_of_bindings ok] at agree
  · intro b ok
    refine (assembled_of_bindings ok).methods.imp ?_
    rintro r m ⟨arguments, _, rfl⟩
    refine ⟨rfl, rfl, ?_, ?_⟩
    · intro t answers
      have typed := successType_eq_ok.mpr answers
      simp [Route.toMethod, responseOf, typed]
    · intro silent
      rcases responseOf_cases options r.operation with
        ⟨t, answers, _⟩ | ⟨_, given⟩
      · exact absurd answers (silent t)
      · simp [Route.toMethod, given]

def lost : OrderedMap String ResponseUse :=
  ⟨[("200", .reference "#/responses/Lost")], by simp⟩

theorem answers_shelving :
    store.Answers shelving (TypeExpr.reference (Naming.typeName "Receipt")) := by
  refine ⟨{ schema := some (.reference "Receipt") }, .reference "Receipt",
    .shared rfl rfl, rfl, ?_⟩
  rw [Schema.toType, Conversion.convert_of_reference rfl rfl]
  rfl

theorem not_answers_lost (t : TypeExpr) :
    ¬ (store.withResponses "/shelves" .post lost).Answers
      { shelving with responses := lost } t := by
  rintro ⟨r, _, answered, _⟩
  rw [successResponse_iff] at answered
  cases answered

theorem store_survives_a_lost_response :
    ∃ b changed, (store.bindings onShelves).result = .ok b ∧
      ((store.withResponses "/shelves" .post lost).bindings onShelves).result =
        .ok changed ∧
      changed.definitions = b.definitions ∧
      b.methods.map (·.responseType) = ["Receipt"] ∧
      changed.methods.map (·.responseType) = ["void"] := by
  obtain ⟨b, ok⟩ := succeeds_store
  obtain ⟨contained, told⟩ := responses_stay_contained store onShelves
  obtain ⟨changed, ran, agree⟩ := (contained "/shelves" .post lost).2 b ok
  obtain ⟨_, toldOfLost⟩ := responses_stay_contained
    (store.withResponses "/shelves" .post lost) onShelves
  let first : Route := ⟨"/shelves", .post, shelving, []⟩
  let second : Route :=
    ⟨"/shelves", .post, { shelving with responses := lost }, []⟩
  have before : List.Forall₂ _ [first] b.methods := told b ok
  have after : List.Forall₂ _ [second] changed.methods :=
    toldOfLost changed ran
  obtain ⟨m, _, ⟨_, _, typed, _⟩, ⟨⟩, listed⟩ :=
    List.forall₂_cons_left_iff.mp before
  obtain ⟨n, _, ⟨_, _, _, untyped⟩, ⟨⟩, others⟩ :=
    List.forall₂_cons_left_iff.mp after
  refine ⟨b, changed, ok, ran, agree.definitions, ?_, ?_⟩
  · rw [listed, List.map_singleton, (typed _ answers_shelving).1]
    decide
  · rw [others, List.map_singleton, (untyped not_answers_lost).1]
    rfl

end Document

end ApiBindings
