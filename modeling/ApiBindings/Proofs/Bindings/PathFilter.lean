import ApiBindings.Proofs.Bindings.Uses
import ApiBindings.Proofs.Tables

/-!
Routes outside the path filter. They give no methods, but their arguments are
built before they are left out; so an assembly ends with the failure of the
first route whose arguments cannot be built, wherever it is.
-/

namespace ApiBindings.Document

def onSegment (doc : Document) (segment : String) : Document :=
  doc.withUses (doc.paths.filter fun path _ => startsWithSegment path segment)
    doc.parameters

/-- The first of the routes whose arguments cannot be built. -/
structure FirstBroken (doc : Document) (r : Route) (e : AssemblyError) :
    Prop where
  listed : ∃ before after, doc.routes = before ++ r :: after ∧
    ∀ q ∈ before, ∃ arguments, q.argumentsIn doc = .ok arguments
  broken : r.argumentsIn doc = .error e

variable {doc : Document} {options : Options} {segment : String} {r : Route}
  {e : AssemblyError}

theorem sound_or_firstBroken (doc : Document) :
    (∀ r ∈ doc.routes, ∃ arguments, r.argumentsIn doc = .ok arguments) ∨
      ∃ r e, doc.FirstBroken r e := by
  rcases Outcome.sound_or_first_error (Route.argumentsIn doc) doc.routes with
    sound | ⟨before, r, after, e, listed, sound, broken⟩
  · exact .inl sound
  · exact .inr ⟨r, e, ⟨before, after, listed, sound⟩, broken⟩

theorem FirstBroken.mem_routes (first : doc.FirstBroken r e) :
    r ∈ doc.routes := by
  obtain ⟨⟨before, after, listed, _⟩, _⟩ := first
  rw [listed]
  exact List.mem_append_right before (.head after)

theorem methodOf_of_broken (broken : r.argumentsIn doc = .error e) :
    doc.methodOf options r = .error e := by
  rw [methodOf_eq, broken]
  rfl

theorem methodOf_of_outside (outside : r.isKept options = false)
    (sound : ∃ arguments, r.argumentsIn doc = .ok arguments) :
    doc.methodOf options r = .ok none := by
  obtain ⟨arguments, built⟩ := sound
  rw [methodOf_eq, built, Outcome.map_ok, if_neg (by simp [outside])]

/-- No filter keeps the first failure from being the result. -/
theorem result_of_firstBroken (version : doc.version = supportedVersion)
    (first : doc.FirstBroken r e) :
    (doc.bindings options).result = .error e := by
  obtain ⟨⟨before, after, listed, sound⟩, broken⟩ := first
  have failed : doc.routes.filterMapM (doc.methodOf options) = .error e := by
    rw [listed]
    apply Outcome.filterMapM_eq_error
    · intro q member
      obtain ⟨arguments, built⟩ := sound q member
      exact ⟨_, by rw [methodOf_eq, built, Outcome.map_ok]⟩
    · exact methodOf_of_broken broken
  rw [result_bindings, if_pos version, failed, Outcome.error_bind]

theorem routes_onSegment :
    (doc.onSegment segment).routes =
      doc.routes.filter fun r => startsWithSegment r.path segment := by
  unfold routes onSegment OrderedMap.filter
  rw [List.filter_flatMap]
  change (doc.paths.entries.filter _).flatMap _ = _
  induction doc.paths.entries with
  | nil => rfl
  | cons entry entries induction =>
      obtain ⟨path, item⟩ := entry
      cases inside : startsWithSegment path segment with
      | true =>
          rw [List.filter_cons, if_pos inside, List.flatMap_cons,
            List.flatMap_cons, induction]
          simp [List.filter_map, Function.comp_def, inside]
      | false =>
          rw [List.filter_cons, if_neg (by simp [inside]), List.flatMap_cons,
            induction]
          simp [List.filter_map, Function.comp_def, inside]

theorem FirstBroken.onSegment (first : doc.FirstBroken r e)
    (inside : startsWithSegment r.path segment = true) :
    (doc.onSegment segment).FirstBroken r e := by
  obtain ⟨⟨before, after, listed, sound⟩, broken⟩ := first
  let kept := fun q : Route => startsWithSegment q.path segment
  have onSegment_listed : (doc.onSegment segment).routes =
      before.filter kept ++ r :: after.filter kept := by
    rw [routes_onSegment, listed, List.filter_append, List.filter_cons,
      if_pos inside]
  refine ⟨⟨before.filter kept, after.filter kept, onSegment_listed, ?_⟩, ?_⟩
  · intro q member
    rw [Document.onSegment, argumentsIn_withPaths]
    exact sound q (List.mem_of_mem_filter member)
  · rw [Document.onSegment, argumentsIn_withPaths]
    exact broken

theorem result_onSegment_of_sound (filtered : options.pathFilter = some segment)
    (sound : ∀ r ∈ doc.routes, ∃ arguments,
      r.argumentsIn doc = .ok arguments) :
    ((doc.onSegment segment).bindings options).result =
      (doc.bindings options).result := by
  have same : (doc.onSegment segment).methodOf options =
      doc.methodOf options := by
    funext r
    exact methodOf_withPaths r
  apply result_bindings_withUses
  change (doc.onSegment segment).routes.filterMapM
    ((doc.onSegment segment).methodOf options) = _
  rw [routes_onSegment, same]
  apply filterMapM_filter
  intro r listed outside
  refine methodOf_of_outside ?_ (sound r listed)
  rw [Route.isKept, filtered]
  exact outside

/-- The routes outside the filter go unseen unless the first failure is one of
theirs: then it is the result. -/
theorem filtered_out_unseen_iff (filtered : options.pathFilter = some segment) :
    ((doc.bindings options).result =
        ((doc.onSegment segment).bindings options).result ↔
      ∀ r e, doc.version = supportedVersion → doc.FirstBroken r e →
        startsWithSegment r.path segment = false →
          ((doc.onSegment segment).bindings options).result = .error e) ∧
    ∀ r e, doc.version = supportedVersion → doc.FirstBroken r e →
      (doc.bindings options).result = .error e := by
  have kept : (doc.onSegment segment).version = doc.version := rfl
  refine ⟨⟨?_, ?_⟩, fun _ _ => result_of_firstBroken⟩
  · intro same r e version first _
    rw [← same]
    exact result_of_firstBroken version first
  · intro covered
    by_cases version : doc.version = supportedVersion
    · rcases sound_or_firstBroken doc with sound | ⟨r, e, first⟩
      · exact (result_onSegment_of_sound filtered sound).symm
      · rw [result_of_firstBroken version first]
        cases inside : startsWithSegment r.path segment with
        | false => exact (covered r e version first inside).symm
        | true =>
            have broken := first.onSegment inside
            exact (result_of_firstBroken (kept.trans version) broken).symm
    · rw [result_bindings, result_bindings, kept, if_neg version,
        if_neg version]

def market (parameters : List ParameterUse) : Document :=
  { version := supportedVersion
    info := { title := "Pets", version := "1" }
    paths :=
      ⟨[("/pets",
          { operations := ⟨[(.get, { operationId := some "listPets" })],
              by simp⟩ }),
        ("/store",
          { operations :=
              ⟨[(.get, { operationId := some "orders", parameters })],
                by simp⟩ })],
        by simp⟩ }

/-- An array of nothing. -/
def ids : ParameterUse :=
  .inline { name := "ids", location := .query, type := some .array }

def status : ParameterUse :=
  .inline { name := "status", location := .query, type := some .string }

theorem argumentOf_ids :
    doc.argumentOf ids = .error (.convert (.shape .missingItems)) := by
  rw [argumentOf, result_argument]
  change ((Conversion.convert doc [] _).result.mapError _).map _ = _
  rw [Conversion.convert_of_malformed rfl]
  rfl

theorem argumentOf_status : ∃ a, doc.argumentOf status = .ok (some a) := by
  rw [argumentOf, result_argument]
  change ∃ a, ((Conversion.convert doc [] _).result.mapError _).map _ = _
  rw [Conversion.convert_of_primitive rfl]
  exact ⟨_, rfl⟩

theorem market_firstBroken :
    (market [ids]).FirstBroken
      ⟨"/store", .get, { operationId := some "orders", parameters := [ids] },
        []⟩
      (.convert (.shape .missingItems)) := by
  refine ⟨⟨[_], [], rfl, ?_⟩, ?_⟩
  · intro q member
    obtain rfl := List.mem_singleton.mp member
    exact ⟨[], rfl⟩
  · change [ids].filterMapM (market [ids]).argumentOf = _
    rw [List.filterMapM_cons, argumentOf_ids]
    rfl

theorem argumentsIn_market (listed : r ∈ (market [status]).routes) :
    ∃ arguments, r.argumentsIn (market [status]) = .ok arguments := by
  have uses : r.uses = [] ∨ r.uses = [status] := by
    simp only [routes, market, List.flatMap_cons, List.flatMap_nil,
      List.map_cons, List.map_nil, List.append_nil, List.cons_append,
      List.nil_append, List.mem_cons, List.not_mem_nil, or_false] at listed
    rcases listed with rfl | rfl
    · exact .inl rfl
    · exact .inr rfl
  rw [Route.argumentsIn]
  rcases uses with uses | uses
  · exact ⟨[], by rw [uses, List.filterMapM_nil]; rfl⟩
  · obtain ⟨a, built⟩ :
        ∃ a, (market [status]).argumentOf status = .ok (some a) :=
      argumentOf_status
    exact ⟨[a], by rw [uses, List.filterMapM_cons, built]; rfl⟩

theorem market_unseen_while_sound :
    ((market [status]).bindings { pathFilter := some "pets" }).result =
      (((market [status]).onSegment "pets").bindings
        { pathFilter := some "pets" }).result ∧
    ((market [ids]).bindings { pathFilter := some "pets" }).result =
      .error (.convert (.shape .missingItems)) := by
  have filtered : ({ pathFilter := some "pets" } : Options).pathFilter =
      some "pets" := rfl
  refine ⟨(filtered_out_unseen_iff filtered).1.mpr ?_,
    (filtered_out_unseen_iff filtered).2 _ _ rfl market_firstBroken⟩
  intro r e _ first _
  obtain ⟨arguments, built⟩ := argumentsIn_market first.mem_routes
  cases first.broken.symm.trans built

theorem market_aborts_for_the_store :
    ((market [ids]).bindings { pathFilter := some "pets" }).result ≠
      (((market [ids]).onSegment "pets").bindings
        { pathFilter := some "pets" }).result := by
  have kept : ((market [ids]).onSegment "pets").routes =
      [⟨"/pets", .get, { operationId := some "listPets" }, []⟩] := by
    rw [routes_onSegment]
    rfl
  rw [result_of_firstBroken rfl market_firstBroken, result_bindings,
    if_pos (by rfl), kept, List.filterMapM_cons, List.filterMapM_nil,
    methodOf_eq]
  rintro ⟨⟩

end ApiBindings.Document
