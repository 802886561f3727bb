import ApiBindings.Proofs.Bindings.Uses
import ApiBindings.Proofs.Tables

/-!
Excluded parameters. A document without them has the same bindings or fails in
the same way, whatever the excluded parameters hold.
-/

namespace ApiBindings

/-- Neither `null` nor `false`, not zero and not the empty text. -/
inductive Json.Holds : Json → Prop
  | bool : Holds (.bool true)
  | int {n : Int} (nonzero : n ≠ 0) : Holds (.int n)
  | float {x : Float} (nonzero : (x == 0) = false) : Holds (.float x)
  | string {s : String} (filled : s ≠ "") : Holds (.string s)
  | array (items : List Json) : Holds (.array items)
  | object (members : List (String × Json)) : Holds (.object members)

/-- The extension `x-exclude-from-bindings` is `true` itself, or the extension
`x-proxy-header` has a value that holds. -/
inductive Exclusion.Excludes (e : Exclusion) : Prop
  | fromBindings (literal : e.fromBindings = some (.bool true))
  | proxyHeader {value : Json} (given : e.proxyHeader = some value)
      (holds : value.Holds)

/-- A use of a parameter that is excluded where it stands, or refers to a shared
parameter that is. -/
inductive Document.LeftOut (doc : Document) : ParameterUse → Prop
  | reference {path : String} {exclusion : Exclusion}
      (excludes : exclusion.Excludes) : LeftOut doc (.reference path exclusion)
  | inline {p : Parameter} (excludes : p.exclusion.Excludes) :
      LeftOut doc (.inline p)
  | shared {path : String} {exclusion : Exclusion} {p : Parameter}
      (found : doc.parameter path = .ok p) (excludes : p.exclusion.Excludes) :
      LeftOut doc (.reference path exclusion)

theorem Json.isTruthy_iff {j : Json} : j.isTruthy = true ↔ j.Holds := by
  constructor
  · intro truthy
    cases j with
    | null => cases truthy
    | bool b =>
        obtain rfl : b = true := truthy
        exact .bool
    | int n => exact .int (by simpa [isTruthy] using truthy)
    | float x => exact .float (by simpa [isTruthy, bne] using truthy)
    | string s => exact .string (by simpa [isTruthy] using truthy)
    | array items => exact .array items
    | object members => exact .object members
  · intro holds
    cases holds with
    | bool | array | object => rfl
    | int nonzero => simpa [isTruthy] using nonzero
    | float nonzero => simpa [isTruthy, bne] using nonzero
    | string filled => simpa [isTruthy] using filled

theorem Exclusion.applies_iff {e : Exclusion} :
    e.applies = true ↔ e.Excludes := by
  rw [applies, Bool.or_eq_true, Option.any_eq_true]
  constructor
  · intro applied
    rcases applied with literal | ⟨value, given, truthy⟩
    · split at literal
      next given => exact .fromBindings given
      next => cases literal
    · exact .proxyHeader given (Json.isTruthy_iff.mp truthy)
  · intro excludes
    cases excludes with
    | fromBindings literal => exact .inl (by rw [literal])
    | proxyHeader given holds =>
        exact .inr ⟨_, given, Json.isTruthy_iff.mpr holds⟩

namespace Document

def leavesOut (doc : Document) (use : ParameterUse) : Bool :=
  use.isExcluded ||
    match use with
    | .reference path _ =>
        (doc.parameter path).toOption.any Parameter.isExcluded
    | .inline _ => false

def Route.filterUses (p : ParameterUse → Bool) (r : Route) : Route :=
  { r with
    operation :=
      { r.operation with parameters := r.operation.parameters.filter p }
    shared := r.shared.filter p }

end Document

def PathItem.filterUses (p : ParameterUse → Bool) (item : PathItem) : PathItem :=
  { parameters := item.parameters.filter p
    operations := item.operations.mapValues fun op =>
      { op with parameters := op.parameters.filter p } }

namespace Document

def keptPaths (doc : Document) : OrderedMap String PathItem :=
  doc.paths.mapValues (PathItem.filterUses fun use => !doc.leavesOut use)

def withoutExcluded (doc : Document) : Document :=
  doc.withUses doc.keptPaths doc.parameters

def withoutExcludedShared (doc : Document) : Document :=
  doc.withUses doc.keptPaths
    (doc.parameters.filter fun _ p => !p.isExcluded)

variable {doc : Document} {options : Options} {use : ParameterUse}
  {shared : OrderedMap String Parameter}

theorem leavesOut_iff : doc.leavesOut use = true ↔ doc.LeftOut use := by
  cases use with
  | inline p =>
      rw [leavesOut, Bool.or_false, ParameterUse.isExcluded, Parameter.isExcluded,
        Exclusion.applies_iff]
      constructor
      · exact .inline
      · intro out
        cases out with
        | inline excludes => exact excludes
  | reference path exclusion =>
      rw [leavesOut, Bool.or_eq_true, ParameterUse.isExcluded,
        Exclusion.applies_iff]
      constructor
      · intro out
        rcases out with excludes | hidden
        · exact .reference excludes
        · cases found : doc.parameter path with
          | error e => simp [found, Except.toOption] at hidden
          | ok p =>
              have excluded : p.isExcluded = true := by
                simpa [found, Except.toOption] using hidden
              exact .shared found (Exclusion.applies_iff.mp excluded)
      · intro out
        cases out with
        | reference excludes => exact .inl excludes
        | shared found excludes =>
            have excluded : Parameter.isExcluded _ = true :=
              Exclusion.applies_iff.mpr excludes
            exact .inr (by simpa [found, Except.toOption] using excluded)

theorem routes_keptPaths :
    (doc.withUses doc.keptPaths shared).routes =
      doc.routes.map (Route.filterUses fun use => !doc.leavesOut use) := by
  simp only [routes, keptPaths, OrderedMap.mapValues, PathItem.filterUses,
    List.flatMap_map, List.map_flatMap, List.map_map]
  rfl

theorem uses_filterUses (p : ParameterUse → Bool) (r : Route) :
    (r.filterUses p).uses = r.uses.filter p := by
  simp only [Route.uses, Route.filterUses, List.filter_append]

theorem keptParameter_of_leavesOut (out : doc.leavesOut use = true) :
    doc.keptParameter use = .ok none := by
  unfold keptParameter
  by_cases excluded : use.isExcluded
  · rw [if_pos excluded]
  · rw [if_neg excluded]
    cases use with
    | inline p => simp [leavesOut, excluded] at out
    | reference path exclusion =>
        cases found : doc.parameter path with
        | error e => simp [leavesOut, excluded, found, Except.toOption] at out
        | ok p =>
            have hidden : p.isExcluded = true := by
              simpa [leavesOut, excluded, found, Except.toOption] using out
            simp [found, hidden, Option.guard]

theorem argumentOf_of_leavesOut (out : doc.leavesOut use = true) :
    doc.argumentOf use = .ok none := by
  rw [argumentOf, result_argument, keptParameter_of_leavesOut out]
  rfl

theorem parameter_of_kept {path : String} {exclusion : Exclusion}
    (kept : doc.leavesOut (.reference path exclusion) = false) :
    doc.withoutExcludedShared.parameter path = doc.parameter path := by
  have shown : ∀ p, doc.parameter path = .ok p → p.isExcluded = false := by
    intro p found
    simp only [leavesOut, Bool.or_eq_false_iff, found] at kept
    exact kept.2
  unfold withoutExcludedShared parameter lookup at *
  cases named : referenceName path "parameters" with
  | error e => rfl
  | ok name =>
      simp only [named, Outcome.ok_bind, OrderedMap.get?_filter] at shown ⊢
      cases found : doc.parameters.get? name with
      | none => rfl
      | some p =>
          have visible := shown p (by rw [found]; rfl)
          rw [Option.filter_some, visible]
          rfl

theorem keptParameter_withoutExcludedShared
    (kept : doc.leavesOut use = false) :
    doc.withoutExcludedShared.keptParameter use = doc.keptParameter use := by
  unfold keptParameter
  cases use with
  | inline p => rfl
  | reference path exclusion => simp only [parameter_of_kept kept]

theorem argumentsIn_filterUses {paths : OrderedMap String PathItem}
    (same : ∀ use, doc.leavesOut use = false →
      (doc.withUses paths shared).keptParameter use = doc.keptParameter use)
    (r : Route) :
    (r.filterUses fun use => !doc.leavesOut use).argumentsIn
        (doc.withUses paths shared) = r.argumentsIn doc := by
  unfold Route.argumentsIn
  rw [uses_filterUses]
  calc
    _ = (r.uses.filter fun use => !doc.leavesOut use).filterMapM
          doc.argumentOf := by
      apply filterMapM_congr_of_mem
      intro use listed
      have kept := List.of_mem_filter listed
      exact argumentOf_withUses (same use (by simpa using kept))
    _ = r.uses.filterMapM doc.argumentOf := by
      apply filterMapM_filter
      intro use _ out
      exact argumentOf_of_leavesOut (by simpa using out)

theorem result_bindings_keptPaths
    (same : ∀ use, doc.leavesOut use = false →
      (doc.withUses doc.keptPaths shared).keptParameter use =
        doc.keptParameter use) :
    ((doc.withUses doc.keptPaths shared).bindings options).result =
      (doc.bindings options).result := by
  apply result_bindings_withUses
  rw [routes_keptPaths, filterMapM_map]
  apply filterMapM_congr_of_mem
  intro r _
  rw [methodOf_eq, methodOf_eq, argumentsIn_filterUses same]
  simp only [toMethod_withUses]
  rfl

/-- Excluded parameters leave no trace, in bindings or in a failure: neither
where they are used nor in the table of shared parameters. The uses that a
document can do without are those that its extensions leave out. -/
theorem excluded_parameters_leave_no_trace (doc : Document)
    (options : Options) :
    (∀ use, doc.leavesOut use = true ↔ doc.LeftOut use) ∧
    (doc.withoutExcluded.bindings options).result =
        (doc.bindings options).result ∧
    (doc.withoutExcludedShared.bindings options).result =
        (doc.bindings options).result := by
  refine ⟨fun use => leavesOut_iff, ?_, ?_⟩
  · apply result_bindings_keptPaths
    intro use _
    exact keptParameter_withUses use
  · apply result_bindings_keptPaths
    intro use kept
    exact keptParameter_withoutExcludedShared kept

def color : Parameter :=
  { name := "color"
    location := .query
    type := some .string
    exclusion :=
      { fromBindings := some (.string "true"), proxyHeader := some (.int 0) } }

/-- A reference to nothing, which is excluded beside it. -/
def lostKey : ParameterUse :=
  .reference "#/parameters/lost" { fromBindings := some (.bool true) }

def spareKey : ParameterUse := .reference "#/parameters/key" {}

def driving : Operation :=
  { operationId := some "drive", parameters := [lostKey, spareKey, .inline color] }

def garage : Document :=
  { version := supportedVersion
    info := { title := "Cars", version := "1" }
    paths := ⟨[("/cars", { operations := ⟨[(.get, driving)], by decide⟩ })],
      by decide⟩
    parameters :=
      ⟨[("key",
          { name := "X-Key"
            location := .header
            exclusion := { proxyHeader := some (.string "key") } })],
        by decide⟩ }

theorem uses_garage :
    garage.withoutExcluded.routes.flatMap Route.uses = [.inline color] := by
  rfl

theorem succeeds_garage : (garage.withoutExcluded.bindings {}).Succeeds := by
  refine succeeds_bindings.mpr ⟨rfl, ?_, nofun⟩
  intro r listed use used
  have one : use ∈ [ParameterUse.inline color] :=
    uses_garage ▸ List.mem_flatMap.mpr ⟨r, listed, used⟩
  obtain rfl := List.mem_singleton.mp one
  refine succeeds_argument.mpr ⟨_, rfl, ?_⟩
  rintro p ⟨⟩
  exact ⟨_, by rw [Schema.toType, Conversion.convert_of_primitive rfl]; rfl⟩

theorem garage_needs_no_keys :
    garage.parameter "#/parameters/lost" =
        .error (.notFound "#/parameters/lost") ∧
      garage.LeftOut lostKey ∧ garage.LeftOut spareKey ∧
      ¬ garage.LeftOut (.inline color) ∧
      ∃ b, (garage.bindings {}).result = .ok b ∧
        (garage.withoutExcluded.bindings {}).result = .ok b ∧
        b.methods.map (·.arguments.map (·.name)) = [["color"]] := by
  obtain ⟨out, same, _⟩ := excluded_parameters_leave_no_trace garage {}
  have shown : garage.leavesOut (.inline color) = false := rfl
  obtain ⟨b, ok⟩ := succeeds_garage
  have ran := same.symm.trans ok
  have methods : List.Forall₂ (garage.Describes {})
      [⟨"/cars", .get, driving, []⟩] b.methods :=
    (assembled_of_bindings ran).methods
  obtain ⟨m, _, ⟨arguments, given, rfl⟩, ⟨⟩, only⟩ :=
    List.forall₂_cons_left_iff.mp methods
  have names : [color].map (·.name) = arguments.map (·.name) :=
    map_eq_of_forall₂ given fun p a gives => by
      obtain ⟨t, _, rfl⟩ := gives
      rfl
  refine ⟨rfl, (out _).mp rfl, (out _).mp rfl, ?_, b, ran, ok, ?_⟩
  · rw [← out, shown]
    exact Bool.false_ne_true
  · rw [only, List.map_singleton]
    exact congrArg (fun name => [name]) names.symm

end Document

end ApiBindings
