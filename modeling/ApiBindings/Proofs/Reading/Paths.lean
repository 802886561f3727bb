import ApiBindings.Proofs.Document.Verb
import ApiBindings.Proofs.Reading.Thinning
import ApiBindings.Proofs.Tables
import ApiBindings.Proofs.Text.Cutting

/-!
What is read of a path and of all paths, told by the entries in the text. The
entries that are passed over can as well be left out of a document.
-/

namespace ApiBindings

namespace Reading

inductive ItemPart
  | parameters (uses : List ParameterUse)
  | operation (o : Operation)

namespace ItemPart

def parameters? : ItemPart → Option (List ParameterUse)
  | parameters uses => some uses
  | operation _ => none

def operation? : ItemPart → Option Operation
  | parameters _ => none
  | operation o => some o

end ItemPart

section Entries

variable {ν : Type} [Source ν]

def itemParts (ms : List (Read String × ν)) : Read (List (String × ItemPart)) :=
  ms.filterMapM fun (key, w) => do
    let key ← key
    if isUnknown key then return none
    else if Text.eqIgnoreCase key "parameters" then
      return some (key, .parameters (← list parameterUse w))
    else return some (key, .operation (← operation w))

def pathParts (ms : List (Read String × ν)) : Read (List (String × PathItem)) :=
  ms.filterMapM fun (key, w) => do
    let key ← key
    if isExtension key then return none else return some (key, ← pathItem w)

end Entries

def lastUnder (name : String) (parts : List (String × ItemPart)) : Option ItemPart :=
  (parts.reverse.find? fun part => Text.eqIgnoreCase part.1 name).map Prod.snd

/-- The path holds the last value of every verb, at the place of the first one,
and the last parameters. -/
structure ItemHolds (item : PathItem) (parts : List (String × ItemPart)) : Prop where
  verbs : item.operations.keys =
    (parts.filterMap fun part => Verb.ofName? part.1).eraseDups
  operation (verb : Verb) :
    item.operations.get? verb = (lastUnder verb.name parts).bind ItemPart.operation?
  parameters : item.parameters =
    ((lastUnder "parameters" parts).bind ItemPart.parameters?).getD []

structure PathsHold (items : OrderedMap String PathItem)
    (parts : List (String × PathItem)) : Prop where
  keys : items.keys = (parts.map Prod.fst).eraseDups
  item (key : String) : items.get? key = Entries.find? key parts.reverse

theorem isExtension_iff {key : String} :
    isExtension key = true ↔ "x-".toList <+: key.toList := by
  rw [isExtension, Option.isSome_iff_exists]
  constructor
  · rintro ⟨rest, found⟩
    exact ⟨rest, (Text.eq_append_of_dropPrefix? found).symm⟩
  · rintro ⟨rest, begins⟩
    exact ⟨rest, begins ▸ Text.dropPrefix?_append _ rest⟩

theorem pathsHold_ofList (parts : List (String × PathItem)) :
    PathsHold (OrderedMap.ofList parts) parts :=
  ⟨OrderedMap.keys_ofList parts, OrderedMap.get?_ofList parts⟩

theorem lastUnder_concat {name key : String} {parts : List (String × ItemPart)}
    {part : ItemPart} : lastUnder name (parts ++ [(key, part)]) =
      if Text.eqIgnoreCase key name then some part else lastUnder name parts := by
  rw [lastUnder, List.reverse_append, List.reverse_singleton, List.singleton_append,
    List.find?_cons]
  cases Text.eqIgnoreCase key name <;> rfl

theorem itemHolds_nil : ItemHolds {} [] :=
  ⟨rfl, fun _ => rfl, rfl⟩

theorem ItemHolds.parameters_concat {item : PathItem} {parts : List (String × ItemPart)}
    {key : String} {uses : List ParameterUse} (holds : ItemHolds item parts)
    (named : Text.eqIgnoreCase key "parameters" = true) :
    ItemHolds { item with parameters := uses }
      (parts ++ [(key, .parameters uses)]) := by
  have noVerb := Verb.ofName?_of_parameters named
  refine ⟨?_, fun verb => ?_, ?_⟩
  · rw [List.filterMap_append, holds.verbs]
    simp [noVerb]
  · have other : Text.eqIgnoreCase key verb.name ≠ true := by
      intro same
      cases noVerb.symm.trans (Verb.ofName?_eq_some.mpr same)
    rw [lastUnder_concat, if_neg other]
    exact holds.operation verb
  · rw [lastUnder_concat, if_pos named]
    rfl

theorem ItemHolds.operation_concat {item : PathItem} {parts : List (String × ItemPart)}
    {key : String} {verb : Verb} {o : Operation} (holds : ItemHolds item parts)
    (found : Verb.ofName? key = some verb) :
    ItemHolds { item with operations := item.operations.insert verb o }
      (parts ++ [(key, .operation o)]) := by
  refine ⟨?_, fun verb' => ?_, ?_⟩
  · have listed : [(key, ItemPart.operation o)].filterMap
        (fun part => Verb.ofName? part.1) = [verb] := by
      simp [found]
    rw [OrderedMap.keys_insert, holds.verbs, List.filterMap_append, listed,
      eraseDups_concat]
  · have spelled : Text.eqIgnoreCase key verb'.name = true ↔ verb = verb' := by
      rw [← Verb.ofName?_eq_some, found, Option.some.injEq]
    rw [OrderedMap.get?_insert, lastUnder_concat, holds.operation]
    by_cases same : verb = verb'
    · rw [if_pos same, if_pos (spelled.mpr same)]
      rfl
    · rw [if_neg same, if_neg (same ∘ spelled.mp)]
  · have other : Text.eqIgnoreCase key "parameters" ≠ true := by
      intro same
      cases (Verb.ofName?_of_parameters same).symm.trans found
    rw [lastUnder_concat, if_neg other]
    exact holds.parameters

section Entries

variable {ν : Type} [Source ν] [IndifferentSource ν]

theorem run_bind_of_ok {α β : Type} {r : Read α} {f : α → Read β} {a : α}
    {p q : Progress} (ran : StateT.run (ExceptT.run r) p = (.ok a, q)) :
    StateT.run (ExceptT.run (r >>= f)) p = StateT.run (ExceptT.run (f a)) q := by
  rw [ExceptT.run_bind, StateT.run_bind, ran]
  rfl

theorem matching_pathItem {v : ν} {parts : Parts (Read String × ν)} {p q : Progress}
    (parted : StateT.run (ExceptT.run (Source.members v)) p = (.ok parts, q))
    (keys : ∀ m ∈ parts.items, Indifferent m.1) (closed : parts.close = pure ())
    (passed : ∀ m ∈ parts.items, Source.skip m.2 = pure ()) :
    Matching ItemHolds (StateT.run (ExceptT.run (pathItem v)) p)
      (StateT.run (ExceptT.run (itemParts parts.items)) q) := by
  unfold pathItem
  rw [run_bind_of_ok parted, closed]
  suffices loop : Alike ItemHolds _ (itemParts parts.items) from loop q q rfl
  simp only [pure_bind, bind_pure]
  refine Alike.foldlM_filterMapM itemHolds_nil fun item before m listed holds => ?_
  obtain ⟨key, w⟩ := m
  refine (keys _ listed).bind fun key => ?_
  by_cases named : Text.eqIgnoreCase key "parameters" = true
  · have known : isUnknown key = false := by
      simp [isUnknown, named]
    rw [if_pos named, known, if_neg Bool.false_ne_true, if_pos named]
    exact (indifferent_list indifferent_parameterUse w).bind fun uses =>
      .pure (holds.parameters_concat named)
  rw [if_neg named, if_neg named]
  cases found : Verb.ofName? key with
  | some verb =>
      have known : isUnknown key = false := by
        simp [isUnknown, found]
      rw [known, if_neg Bool.false_ne_true]
      exact (indifferent_operation w).bind fun o => .pure (holds.operation_concat found)
  | none =>
      have unknown : isUnknown key = true := by
        simp [isUnknown, named, found]
      have kept : Alike (fun c o => ItemHolds c (before ++ o.toList))
          (do Source.skip w; pure item) (pure none) := by
        rw [passed _ listed, pure_bind]
        exact .pure (by rwa [Option.toList_none, List.append_nil])
      rw [if_pos unknown]
      dsimp only
      split
      · exact kept.noted _ _
      · exact kept.noted _ _

theorem matching_paths {v : ν} {parts : Parts (Read String × ν)} {p q : Progress}
    (parted : StateT.run (ExceptT.run (Source.members v)) p = (.ok parts, q))
    (keys : ∀ m ∈ parts.items, Indifferent m.1) (closed : parts.close = pure ())
    (passed : ∀ m ∈ parts.items, Source.skip m.2 = pure ()) :
    Matching PathsHold (StateT.run (ExceptT.run (paths v)) p)
      (StateT.run (ExceptT.run (pathParts parts.items)) q) := by
  unfold paths
  rw [run_bind_of_ok parted, closed]
  suffices loop : Alike (fun items read => items = OrderedMap.ofList read) _
      (pathParts parts.items) from
    (loop q q rfl).imp fun items read made => made ▸ pathsHold_ofList read
  simp only [pure_bind, bind_pure]
  refine Alike.foldlM_filterMapM rfl fun items before m listed made => ?_
  obtain ⟨key, w⟩ := m
  refine (keys _ listed).bind fun key => ?_
  split
  · rw [passed _ listed]
    refine Alike.noted ?_ _ _
    exact .pure (by rwa [Option.toList_none, List.append_nil])
  · refine (indifferent_pathItem w).bind fun item => .pure ?_
    rw [made, Option.toList_some, OrderedMap.ofList_concat]

/-- Keys are read whatever has been noted before. -/
theorem keys_of_members {v : ν} {parts : Parts (Read String × ν)} {p q : Progress}
    (parted : StateT.run (ExceptT.run (Source.members v)) p = (.ok parts, q)) :
    ∀ m ∈ parts.items, Indifferent m.1 := by
  have itself := IndifferentSource.members v p p rfl
  rw [parted] at itself
  cases itself with
  | ok matched _ => exact fun m listed => (List.forall₂_same.mp matched.items m listed).1

end Entries

theorem result_of_alike {α : Type} {r s : Read α} (alike : Alike Eq r s) :
    r.run.result = s.run.result := by
  have ended := alike .start .start rfl
  change (StateT.run (ExceptT.run r) .start).1 = (StateT.run (ExceptT.run s) .start).1
  revert ended
  generalize StateT.run (ExceptT.run r) .start = x
  generalize StateT.run (ExceptT.run s) .start = y
  intro ended
  cases ended with
  | ok same _ => exact congrArg Except.ok same
  | error _ => rfl

/-- A path can be read if the values under its verbs and `parameters` can, and
holds them; all paths can be read if those under keys that are no extensions can.
Other entries have no part in it, and a document may do without them. -/
theorem paths_hold_known_entries :
    (∀ key verb,
        Verb.ofName? key = some verb ↔ Text.eqIgnoreCase key verb.name = true) ∧
      (∀ key, isExtension key = true ↔ "x-".toList <+: key.toList) ∧
      (∀ (ν : Type) [Source ν] [IndifferentSource ν] (v : ν)
          (parts : Parts (Read String × ν)) (p q : Progress),
        StateT.run (ExceptT.run (Source.members v)) p = (.ok parts, q) →
        parts.close = pure () →
        (∀ m ∈ parts.items, Source.skip m.2 = pure ()) →
        Matching ItemHolds (StateT.run (ExceptT.run (pathItem v)) p)
            (StateT.run (ExceptT.run (itemParts parts.items)) q) ∧
          Matching PathsHold (StateT.run (ExceptT.run (paths v)) p)
            (StateT.run (ExceptT.run (pathParts parts.items)) q)) ∧
      (∀ (t : Json.Tree) (depth : Nat), t.intact = true →
        (document (⟨Json.Tree.objects.thinDocument t, depth⟩ : Json.Node)).run.result =
          (document (⟨t, depth⟩ : Json.Node)).run.result) ∧
      ∀ (stream : Yaml.Stream) (node : Yaml.Node Nat) (depth : Nat),
        (document (⟨stream, some (Yaml.Node.mappings.thinDocument node), depth⟩ :
            Yaml.Cursor)).run.result =
          (document (⟨stream, some node, depth⟩ : Yaml.Cursor)).run.result := by
  refine ⟨fun _ _ => Verb.ofName?_eq_some, fun _ => isExtension_iff, ?_, ?_, ?_⟩
  · intro ν _ _ v parts p q parted closed passed
    have keys := keys_of_members parted
    exact ⟨matching_pathItem parted keys closed passed,
      matching_paths parted keys closed passed⟩
  · intro t depth intact
    exact (result_of_alike (Json.Node.alike_thinDocument intact depth)).symm
  · intro stream node depth
    exact (result_of_alike (Yaml.Cursor.alike_thinDocument stream node depth)).symm

/-- A tram stop whose departures are given twice, with a word on the line. -/
def tramStop : List (Option String × Json.Tree) :=
  [(some "x-line", .bool true),
    (some "GET", .object [(some "operationId", .text (some "earlier"))] true),
    (some "$ref", .null),
    (some "put", .object [] true),
    (some "get", .object [(some "operationId", .text (some "departures"))] true)]

def tramPaths : List (Option String × Json.Tree) :=
  [(some "x-owner", .text (some "city")), (some "/stop", .object tramStop true)]

def tramNetwork (paths : List (Option String × Json.Tree)) : Json.Tree :=
  .object [(some "swagger", .text (some "2.0")), (some "paths", .object paths true)]
    true

theorem stop_holds_last_departures :
    (∃ item : PathItem,
        (pathItem (⟨.object tramStop true, 9⟩ : Json.Node)).run.result = .ok item ∧
          item.operations.keys = [.get, .put] ∧
          (item.operations.get? .get).bind Operation.operationId =
            some "departures") ∧
      (∃ items : OrderedMap String PathItem,
        (paths (⟨.object tramPaths true, 9⟩ : Json.Node)).run.result = .ok items ∧
          items.keys = ["/stop"]) ∧
      Json.Tree.objects.thinDocument (tramNetwork tramPaths) =
        tramNetwork [(some "/stop", .object
          [(some "GET", .object
              [(some "operationId", .text (some "earlier"))] true),
            (some "put", .object [] true),
            (some "get", .object
              [(some "operationId", .text (some "departures"))] true)] true)] ∧
      (document (⟨Json.Tree.objects.thinDocument (tramNetwork tramPaths), 9⟩ :
          Json.Node)).run.result =
        (document (⟨tramNetwork tramPaths, 9⟩ : Json.Node)).run.result := by
  obtain ⟨_, _, entries, thinned, _⟩ := paths_hold_known_entries
  have intact : ∀ m ∈ tramStop ++ tramPaths, m.2.intact = true := by
    decide
  have passed (ms : List (Option String × Json.Tree))
      (whole : ∀ m ∈ ms, m.2.intact = true) :
      ∀ m ∈ ms.map fun m => (Json.Node.readKey m.1, (⟨m.2, 8⟩ : Json.Node)),
        Source.skip m.2 = pure () := by
    intro m listed
    obtain ⟨n, inside, rfl⟩ := List.mem_map.mp listed
    exact Json.Node.skip_of_intact (whole n inside)
  obtain ⟨ofStop, ofPaths⟩ := List.forall_mem_append.mp intact
  have held := (entries Json.Node ⟨.object tramStop true, 9⟩
    ⟨tramStop.map fun m => (Json.Node.readKey m.1, ⟨m.2, 8⟩), pure ()⟩ .start .start
    rfl rfl (passed tramStop ofStop)).1
  have all := (entries Json.Node ⟨.object tramPaths true, 9⟩
    ⟨tramPaths.map fun m => (Json.Node.readKey m.1, ⟨m.2, 8⟩), pure ()⟩ .start .start
    rfl rfl (passed tramPaths ofPaths)).2
  have read : StateT.run (ExceptT.run (itemParts (tramStop.map fun m =>
        (Json.Node.readKey m.1, (⟨m.2, 8⟩ : Json.Node))))) .start =
      (.ok [("GET", .operation { operationId := some "earlier" }),
        ("put", .operation {}),
        ("get", .operation { operationId := some "departures" })], .start) := rfl
  have listed : ∃ item q, StateT.run (ExceptT.run (pathParts (tramPaths.map fun m =>
        (Json.Node.readKey m.1, (⟨m.2, 8⟩ : Json.Node))))) .start =
      (.ok [("/stop", item)], q) := ⟨_, _, rfl⟩
  obtain ⟨stop, q, listed⟩ := listed
  rw [read] at held
  rw [listed] at all
  obtain ⟨item, _, ran, holds⟩ := held.exists_ok
  obtain ⟨items, _, readAll, holdsAll⟩ := all.exists_ok
  refine ⟨⟨item, congrArg Prod.fst ran, ?_, ?_⟩,
    ⟨items, congrArg Prod.fst readAll, ?_⟩, rfl, thinned _ 9 (by decide)⟩
  · exact holds.verbs.trans (by decide +kernel)
  · rw [holds.operation]
    decide +kernel
  · exact holdsAll.keys

end Reading

end ApiBindings
