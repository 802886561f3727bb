import ApiBindings.Proofs.Bindings.Completeness

/-!
Parameters that a method declares twice. The shared parameters of a path are
added to those of an operation, also where the operation describes one of them
anew.
-/

namespace ApiBindings

open Document (Route)

def Argument.slot (a : Argument) : String × ArgumentPlace := (a.name, a.place)

namespace Parameter

def key (p : Parameter) : String × Location := (p.name, p.location)

def slot (p : Parameter) : String × ArgumentPlace := (p.name, p.location.place)

/-- One name at two places that are no places of a request. -/
structure Blurs (p q : Parameter) : Prop where
  name : p.name = q.name
  places : ∃ word other, p.location = .other word ∧ q.location = .other other ∧
    word ≠ other

variable {p q : Parameter}

theorem slot_toArgument (type : TypeExpr) :
    (p.toArgument type).slot = p.slot := rfl

theorem key_or_blurs (same : p.slot = q.slot) : p.key = q.key ∨ p.Blurs q := by
  obtain ⟨name, place⟩ := Prod.mk.inj same
  by_cases equal : p.location = q.location
  · exact .inl (Prod.ext name equal)
  · right
    refine ⟨name, ?_⟩
    cases first : p.location <;> cases second : q.location <;>
      simp_all [Location.place]

theorem Blurs.slot_eq (blurs : p.Blurs q) : p.slot = q.slot := by
  obtain ⟨name, word, other, first, second, _⟩ := blurs
  simp [slot, name, first, second, Location.place]

theorem not_blurs_self : ¬ p.Blurs p := by
  intro blurs
  obtain ⟨_, word, other, first, second, different⟩ := blurs
  rw [first] at second
  exact different (Location.other.inj second)

end Parameter

namespace Document

/-- The parameter that is used, be it excluded or not. -/
def followed (doc : Document) : ParameterUse → Option Parameter
  | .reference path _ => (doc.parameter path).toOption
  | .inline p => some p

structure SingleLists (doc : Document) : Prop where
  own : ∀ path item, (path, item) ∈ doc.paths.entries →
    ∀ verb op, (verb, op) ∈ item.operations.entries →
      ((op.parameters.filterMap doc.followed).map Parameter.key).Nodup
  shared : ∀ path item, (path, item) ∈ doc.paths.entries →
    ((item.parameters.filterMap doc.followed).map Parameter.key).Nodup

def kept (doc : Document) (uses : List ParameterUse) : List Parameter :=
  uses.filterMap fun use => (doc.keptParameter use).toOption.join

/-- No parameter of the operation describes one of its path anew, and no two of
one list fall together. -/
structure Route.Settled (doc : Document) (r : Route) : Prop where
  disjoint : ∀ p ∈ doc.kept r.operation.parameters, ∀ q ∈ doc.kept r.shared,
    p.slot ≠ q.slot
  own : ∀ p ∈ doc.kept r.operation.parameters,
    ∀ q ∈ doc.kept r.operation.parameters, ¬ p.Blurs q
  shared : ∀ p ∈ doc.kept r.shared, ∀ q ∈ doc.kept r.shared, ¬ p.Blurs q

variable {doc : Document} {options : Options} {b : Bindings} {m : Method}
  {r : Route} {uses : List ParameterUse}

theorem keptParameters_eq (r : Route) :
    doc.keptParameters r =
      doc.kept r.operation.parameters ++ doc.kept r.shared :=
  List.filterMap_append

theorem kept_eq_filter (uses : List ParameterUse) :
    doc.kept uses = ((uses.filter (!·.isExcluded)).filterMap
      doc.followed).filter (!·.isExcluded) := by
  rw [List.filterMap_filter, List.filter_filterMap]
  apply List.filterMap_congr
  intro use _
  unfold keptParameter
  by_cases excluded : use.isExcluded
  · simp [excluded, Except.toOption]
  · cases use with
    | inline p =>
        simp [excluded, Except.toOption, followed, Option.guard,
          Option.filter_some]
    | reference path exclusion =>
        cases found : doc.parameter path <;>
          simp [excluded, Except.toOption, followed, found, Option.guard,
            Option.filter_some]

theorem kept_sublist_followed (uses : List ParameterUse) :
    (doc.kept uses).Sublist (uses.filterMap doc.followed) := by
  rw [kept_eq_filter]
  exact List.filter_sublist.trans (List.filter_sublist.filterMap _)

theorem nodup_slots_iff {ps : List Parameter}
    (single : (ps.map Parameter.key).Nodup) :
    (ps.map Parameter.slot).Nodup ↔ ∀ p ∈ ps, ∀ q ∈ ps, ¬ p.Blurs q := by
  have distinct : ps.Nodup := .of_map _ single
  rw [List.nodup_map_iff_inj_on distinct]
  constructor
  · intro injective p listed q listed' blurs
    obtain rfl := injective p listed q listed' blurs.slot_eq
    exact Parameter.not_blurs_self blurs
  · intro clear p listed q listed' same
    rcases Parameter.key_or_blurs same with equal | blurs
    · exact List.inj_on_of_nodup_map single listed listed' equal
    · exact absurd blurs (clear p listed q listed')

theorem SingleLists.of_mem_routes (single : doc.SingleLists)
    (listed : r ∈ doc.routes) :
    ((doc.kept r.operation.parameters).map Parameter.key).Nodup ∧
      ((doc.kept r.shared).map Parameter.key).Nodup := by
  obtain ⟨path, item, at_, verb, op, inside, rfl⟩ := mem_routes.mp listed
  have own := single.own path item at_ verb op inside
  have shared := single.shared path item at_
  exact ⟨own.sublist ((kept_sublist_followed _).map _),
    shared.sublist ((kept_sublist_followed _).map _)⟩

theorem slots_of_describes (described : doc.Describes options r m) :
    m.arguments.map Argument.slot =
      (doc.keptParameters r).map Parameter.slot := by
  obtain ⟨arguments, given, rfl⟩ := described
  symm
  apply map_eq_of_forall₂ given
  intro p a gives
  obtain ⟨type, _, rfl⟩ := gives
  exact Parameter.slot_toArgument type

theorem nodup_slots_iff_settled
    (own : ((doc.kept r.operation.parameters).map Parameter.key).Nodup)
    (shared : ((doc.kept r.shared).map Parameter.key).Nodup) :
    ((doc.keptParameters r).map Parameter.slot).Nodup ↔ r.Settled doc := by
  rw [keptParameters_eq, List.map_append, List.nodup_append,
    nodup_slots_iff own, nodup_slots_iff shared]
  simp only [List.forall_mem_map]
  constructor
  · intro parts
    obtain ⟨own, shared, disjoint⟩ := parts
    exact ⟨disjoint, own, shared⟩
  · intro settled
    exact ⟨settled.own, settled.shared, settled.disjoint⟩

/-- If no list of parameters repeats one, then the arguments of each method are
distinct exactly if no operation describes a parameter of its path anew, and no
list has one name at two unknown places. -/
theorem arguments_distinct_iff (single : doc.SingleLists)
    (ok : (doc.bindings options).result = .ok b) :
    (∀ m ∈ b.methods, (m.arguments.map Argument.slot).Nodup) ↔
      ∀ r ∈ doc.keptRoutes options, r.Settled doc := by
  have methods := (assembled_of_bindings ok).methods
  have listed := (List.forall₂_and_left _ _).mpr ⟨fun _ => id, methods⟩
  symm
  apply forall_mem_of_forall₂ listed
  rintro r m ⟨listed, described⟩
  obtain ⟨own, shared⟩ := single.of_mem_routes (List.mem_of_mem_filter listed)
  rw [slots_of_describes described, nodup_slots_iff_settled own shared]

def limit : Parameter :=
  { name := "limit", location := .query, type := some .integer
    required := true }

def pageSize (location : Location) : Parameter :=
  { name := "limit", location, type := some .string }

def listPets : Operation :=
  { operationId := some "listPets", parameters := [.inline limit] }

def listing (location : Location) : Document :=
  { version := supportedVersion
    info := { title := "Pets", version := "1" }
    paths :=
      ⟨[("/pets",
          { parameters := [.inline (pageSize location)]
            operations := ⟨[(.get, listPets)], by simp⟩ })], by simp⟩ }

variable (location : Location)

theorem singleLists_listing : (listing location).SingleLists := by
  constructor
  · intro path item listed verb op inside
    obtain ⟨rfl, rfl⟩ : path = "/pets" ∧ item = _ := by
      simpa [listing] using listed
    obtain ⟨rfl, rfl⟩ : verb = .get ∧ op = listPets := by simpa using inside
    exact List.nodup_singleton _
  · intro path item listed
    obtain ⟨rfl, rfl⟩ : path = "/pets" ∧ item = _ := by
      simpa [listing] using listed
    exact List.nodup_singleton _

theorem keptRoutes_listing :
    (listing location).keptRoutes {} =
      [⟨"/pets", .get, listPets, [.inline (pageSize location)]⟩] := rfl

theorem succeeds_of_primitive {s : Schema} {kind : Primitive}
    (shape : s.shape = .ok (.primitive kind)) : (s.toType doc).Succeeds := by
  rw [Schema.toType, Conversion.convert_of_primitive shape]
  exact Traced.succeeds_pure _

theorem succeeds_listing : ((listing location).bindings {}).Succeeds := by
  rw [succeeds_bindings]
  refine ⟨rfl, ?_, nofun⟩
  intro r listed use used
  obtain rfl :
      r = ⟨"/pets", .get, listPets, [.inline (pageSize location)]⟩ := by
    simpa [routes, listing] using listed
  rw [succeeds_argument]
  rcases List.mem_pair.mp used with rfl | rfl
  · refine ⟨_, rfl, ?_⟩
    rintro p ⟨⟩
    exact succeeds_of_primitive rfl
  · refine ⟨_, rfl, ?_⟩
    rintro p ⟨⟩
    exact succeeds_of_primitive rfl

theorem methods_listing (assembled : (listing location).Assembled {} b) :
    ∃ m, b.methods = [m] ∧ m.arguments.map Argument.slot =
      [("limit", .query), ("limit", location.place)] := by
  have methods := assembled.methods
  rw [keptRoutes_listing] at methods
  obtain ⟨m, _, described, ⟨⟩, only⟩ := List.forall₂_cons_left_iff.mp methods
  exact ⟨m, only, slots_of_describes described⟩

theorem header_limit_is_another :
    (listing .header).SingleLists ∧
    ∃ b, ((listing .header).bindings {}).result = .ok b ∧
      ∃ m, b.methods = [m] ∧ m.arguments.map Argument.slot =
          [("limit", .query), ("limit", .header)] ∧
        (m.arguments.map Argument.slot).Nodup := by
  obtain ⟨b, ok⟩ := succeeds_listing .header
  obtain ⟨m, only, slots⟩ := methods_listing .header (assembled_of_bindings ok)
  have single := singleLists_listing .header
  refine ⟨single, b, ok, m, only, slots, ?_⟩
  apply (arguments_distinct_iff single ok).mpr
  · intro r listed
    rw [keptRoutes_listing] at listed
    obtain rfl := List.mem_singleton.mp listed
    have own : (listing .header).kept listPets.parameters = [limit] := rfl
    have shared : (listing .header).kept [.inline (pageSize .header)] =
        [pageSize .header] := rfl
    constructor <;> simp only [own, shared, List.forall_mem_singleton]
    · decide
    · exact Parameter.not_blurs_self
    · exact Parameter.not_blurs_self
  · simp [only]

/-- The operation describes the limit anew, and its method has both. -/
theorem query_limit_is_declared_twice :
    (listing .query).SingleLists ∧
    ∃ b, ((listing .query).bindings {}).result = .ok b ∧
      ∃ m, b.methods = [m] ∧ m.arguments.map Argument.slot =
          [("limit", .query), ("limit", .query)] ∧
        ¬ (m.arguments.map Argument.slot).Nodup := by
  obtain ⟨b, ok⟩ := succeeds_listing .query
  obtain ⟨m, only, slots⟩ := methods_listing .query (assembled_of_bindings ok)
  refine ⟨singleLists_listing .query, b, ok, m, only, slots, ?_⟩
  rw [slots]
  decide

end Document

end ApiBindings
