import ApiBindings.Proofs.Bindings.PathFilter
import ApiBindings.Proofs.Bindings.Records
import Mathlib.Data.List.Flatten

/-!
What options change. No option decides whether an assembly succeeds, and a path
filter does no more than leave methods out of the bindings.
-/

namespace ApiBindings

/-- What a path filter leaves of bindings. -/
structure Bindings.RestrictedTo (segment : String)
    (kept all : Bindings) : Prop where
  methods : kept.methods =
    all.methods.filter fun m => startsWithSegment m.path segment
  definitions : kept.definitions = all.definitions
  info : kept.info = all.info
  imports : kept.imports ⊆ all.imports
  token : kept.security.token = true → all.security.token = true
  apiKey : kept.security.apiKey = true → all.security.apiKey = true
  basic : kept.security.basic = true → all.security.basic = true

namespace Bindings

def onSegment (segment : String) (all : Bindings) : Bindings :=
  all.filterMapMethods (Option.guard fun m => startsWithSegment m.path segment)

theorem importNames_subset {few many : List String} (fewer : few ⊆ many) :
    importNames few ⊆ importNames many :=
  List.filter_subset _ (List.map_subset _ fewer)

theorem any_needs_of_sublist {mechanism : SecurityFlags → Bool}
    {few many : List Method} (fewer : few.Sublist many)
    (needed : few.any (needs mechanism) = true) :
    many.any (needs mechanism) = true := by
  obtain ⟨m, listed, needed⟩ := List.any_eq_true.mp needed
  exact List.any_eq_true.mpr ⟨m, fewer.subset listed, needed⟩

theorem restrictedTo_onSegment (segment : String) (info : BindingsInfo)
    (methods : List Method) (definitions : List TypeDeclaration) :
    ((ofRecords info methods definitions).onSegment segment).RestrictedTo
      segment (ofRecords info methods definitions) := by
  let few := methods.filter fun m => startsWithSegment m.path segment
  have fewer : few.Sublist methods := List.filter_sublist
  have kept : (ofRecords info methods definitions).onSegment segment =
      ofRecords info few definitions := by
    simp [onSegment, filterMapMethods, few, List.filterMap_eq_filter]
  have targets := (fewer.flatMap Method.importTargets).append_right
    (definitions.flatMap (·.type.importTarget.toList))
  rw [kept, ofRecords_eq, ofRecords_eq]
  refine ⟨rfl, rfl, rfl, ?_, any_needs_of_sublist fewer,
    any_needs_of_sublist fewer, any_needs_of_sublist fewer⟩
  intro name imported
  rw [List.mem_eraseDups] at imported ⊢
  exact importNames_subset targets.subset imported

end Bindings

namespace Document

variable {doc : Document} {options : Options} {segment : String}

theorem methodOf_filtered (filtered : options.pathFilter = some segment)
    (r : Route) :
    doc.methodOf options r =
      (doc.methodOf { options with pathFilter := none } r).map
        (Option.bind · (Option.guard fun m =>
          startsWithSegment m.path segment)) := by
  rw [methodOf_eq, methodOf_eq]
  cases r.argumentsIn doc with
  | error e => rfl
  | ok arguments =>
      simp only [Outcome.map_ok, Route.isKept, filtered, Option.all_some,
        Option.all_none, if_true, Option.bind_some, Option.guard]
      rfl

/-- A path filter takes effect on finished bindings, and on no failure. -/
theorem result_bindings_filtered
    (filtered : options.pathFilter = some segment) :
    (doc.bindings options).result =
      (doc.bindings { options with pathFilter := none }).result.map
        (Bindings.onSegment segment) := by
  apply result_bindings_filterMapMethods
  · rfl
  · rfl
  · rfl
  · rw [← Outcome.filterMapM_bind]
    exact filterMapM_congr_of_mem fun r _ => methodOf_filtered filtered r

/-- A document that can be assembled with the options left alone can be
assembled with all others; a path filter keeps the methods of its segment, in
their order and unchanged, and adds nothing. -/
theorem options_are_safe_and_filters_restrict (doc : Document) :
    ((doc.bindings {}).Succeeds → ∀ options, (doc.bindings options).Succeeds) ∧
    ∀ options segment all, options.pathFilter = some segment →
      (doc.bindings { options with pathFilter := none }).result = .ok all →
      ∃ kept, (doc.bindings options).result = .ok kept ∧
        kept.RestrictedTo segment all := by
  constructor
  · intro succeeds options
    rw [succeeds_bindings] at succeeds ⊢
    exact succeeds
  · intro options segment all filtered ok
    refine ⟨all.onSegment segment, ?_, ?_⟩
    · rw [result_bindings_filtered filtered, ok, Outcome.map_ok]
    · have restricted := Bindings.restrictedTo_onSegment segment all.info
        all.methods all.definitions
      rwa [← eq_ofRecords_of_bindings ok] at restricted

theorem paths_of_assembled {b : Bindings} (assembled : doc.Assembled options b) :
    b.methods.map (·.path) = (doc.keptRoutes options).map (·.path) := by
  refine (map_eq_of_forall₂ assembled.methods ?_).symm
  rintro r m ⟨arguments, _, rfl⟩
  rfl

theorem succeeds_market : ((market [status]).bindings options).Succeeds := by
  rw [succeeds_bindings]
  refine ⟨rfl, ?_, nofun⟩
  intro r listed use used
  have same : use = status := by
    simp only [routes, market, List.flatMap_cons, List.flatMap_nil,
      List.map_cons, List.map_nil, List.append_nil, List.cons_append,
      List.nil_append, List.mem_cons, List.not_mem_nil, or_false] at listed
    rcases listed with rfl | rfl
    · cases used
    · exact List.mem_singleton.mp used
  obtain ⟨a, built⟩ : ∃ a, (market [status]).argumentOf status = .ok (some a) :=
    argumentOf_status
  exact ⟨some a, by rw [same]; exact built⟩

theorem market_restricted_to_pets :
    ((market [status]).bindings { className := "Orders" }).Succeeds ∧
    ∃ kept, ((market [status]).bindings { pathFilter := some "PETS" }).result =
        .ok kept ∧
      kept.methods.map (·.path) = ["/pets"] := by
  obtain ⟨valid, restricted⟩ :=
    options_are_safe_and_filters_restrict (market [status])
  obtain ⟨all, ok⟩ : ((market [status]).bindings {}).Succeeds := succeeds_market
  obtain ⟨kept, ran, restriction⟩ :=
    restricted { pathFilter := some "PETS" } "PETS" all rfl ok
  refine ⟨valid ⟨all, ok⟩ _, kept, ran, ?_⟩
  have paths := paths_of_assembled (assembled_of_bindings ok)
  have inside : (((market [status]).keptRoutes {}).map (·.path)).filter
      (startsWithSegment · "PETS") = ["/pets"] := by decide +kernel
  rw [← inside, ← paths, List.filter_map, restriction.methods]
  rfl

end Document

end ApiBindings
