import ApiBindings.Document.Reader
import Mathlib.Tactic.SplitIfs

/-!
What a reading can give. A reading counts the references that it follows, so
whether it gets through depends on what came before; what it gives does not.
-/

namespace ApiBindings

namespace Reading

variable {α β : Type}

/-- The reading gets through somewhere in a text, and gives `a`. -/
def Gives (r : Read α) (a : α) : Prop :=
  ∃ p q, StateT.run (ExceptT.run r) p = (.ok a, q)

def Steady (r : Read α) : Prop :=
  ∀ a b, Gives r a → Gives r b → a = b

section Parts

variable {r : Read α} {f : α → Read β} {a b : α}

theorem gives_of_run (ran : r.run.result = .ok a) : Gives r a :=
  ⟨.start, (StateT.run (ExceptT.run r) .start).2, Prod.ext ran rfl⟩

theorem gives_pure : Gives (pure a) b ↔ a = b := by
  constructor
  · rintro ⟨p, q, ran⟩
    cases ran
    rfl
  · rintro rfl
    exact ⟨.start, .start, rfl⟩

theorem not_gives_throw (fault : Fault) : ¬Gives (throw fault : Read α) a := by
  rintro ⟨p, q, ran⟩
  cases ran

theorem gives_bind {b : β} (gives : Gives (r >>= f) b) :
    ∃ a, Gives r a ∧ Gives (f a) b := by
  obtain ⟨p, q, ran⟩ := gives
  rw [ExceptT.run_bind, StateT.run_bind] at ran
  rcases first : StateT.run (ExceptT.run r) p with ⟨e | a, middle⟩
  · rw [first] at ran
    cases ran
  · rw [first] at ran
    exact ⟨a, ⟨p, middle, first⟩, middle, q, ran⟩

theorem gives_map {f : α → β} {b : β} (gives : Gives (f <$> r) b) :
    ∃ a, Gives r a ∧ f a = b := by
  rw [← bind_pure_comp] at gives
  obtain ⟨a, gives, same⟩ := gives_bind gives
  exact ⟨a, gives, gives_pure.mp same⟩

theorem steady_pure (a : α) : Steady (pure a) := fun _ _ first second =>
  (gives_pure.mp first).symm.trans (gives_pure.mp second)

theorem steady_throw (fault : Fault) : Steady (throw fault : Read α) :=
  fun _ _ first => absurd first (not_gives_throw fault)

theorem Steady.bind (steady : Steady r) (rest : ∀ a, Steady (f a)) :
    Steady (r >>= f) := by
  intro b b' first second
  obtain ⟨a, gives, first⟩ := gives_bind first
  obtain ⟨a', gives', second⟩ := gives_bind second
  cases steady a a' gives gives'
  exact rest a b b' first second

theorem Steady.map (steady : Steady r) (f : α → β) : Steady (f <$> r) := by
  rw [← bind_pure_comp]
  exact steady.bind fun a => steady_pure _

end Parts

/-- Two readings of a value find the same parts in it, and where both take a
value for a text, as free-form or not, it is the same text. -/
class SteadySource (ν : Type) [Source ν] : Prop where
  fields (v : ν) : Steady (Source.fields v)
  key {v : ν} {parts : Parts (Read FieldKey × ν)}
    (gives : Gives (Source.fields v) (.inr parts)) :
    ∀ member ∈ parts.items, Steady member.1
  text_of_json {v : ν} {s s' : String}
    (json : Gives (optional Source.json v) (some (.string s)))
    (text : Gives (Source.text v) s') : s' = s

theorem gives_optional {ν : Type} [Source ν] {read : ν → Read α} {v : ν} {a : α}
    (gives : Gives (optional read v) (some a)) :
    ∃ w, Gives (Source.present v) (some w) ∧ Gives (read w) a := by
  obtain ⟨present, found, gives⟩ := gives_bind gives
  cases present with
  | none => cases gives_pure.mp gives
  | some w =>
      obtain ⟨a', gives, same⟩ := gives_bind gives
      cases gives_pure.mp same
      exact ⟨w, found, gives⟩

/-- Only a text is a text as free-form value. -/
theorem eq_text_of_toJson? {d : Datum} {s : String}
    (same : d.toJson? = some (.string s)) : d = .text s := by
  cases d with
  | text s' =>
      cases same
      rfl
  | float x =>
      rw [Datum.toJson?, Option.some.injEq] at same
      split at same <;> cases same
  | list items =>
      obtain ⟨_, -, other⟩ := Option.map_eq_some_iff.mp same
      cases other
  | table members =>
      obtain ⟨_, -, other⟩ := Option.map_eq_some_iff.mp same
      cases other
  | null => cases same
  | bool => cases same
  | int => cases same

end Reading

namespace Json.Node

open Reading

variable {α : Type}

theorem not_gives_refuse {t : Tree} {a : α} : ¬Gives (refuse t : Read α) a := by
  unfold refuse
  split
  case h_2 =>
      split
      · exact not_gives_throw _
      · exact not_gives_throw _
  all_goals exact not_gives_throw _

theorem steady_refuse (t : Tree) : Steady (refuse t : Read α) :=
  fun _ _ gives => absurd gives not_gives_refuse

theorem steady_enter {v : Node} {inside : Nat → Read α}
    (steady : ∀ depth, Steady (inside depth)) : Steady (v.enter inside) := by
  unfold enter
  split
  · exact steady_throw _
  · exact steady _

theorem steady_readKey (key : Option String) : Steady (readKey key) := by
  cases key with
  | none => exact steady_throw _
  | some k => exact steady_pure k

theorem steady_readFields (v : Node) : Steady v.readFields := by
  unfold readFields
  split
  · refine Steady.map ?_ _
    unfold readItems
    split
    · exact steady_enter fun _ => steady_pure _
    · exact steady_refuse _
  · refine Steady.bind ?_ fun parts => steady_pure _
    unfold readMembers
    split
    · exact steady_enter fun _ => steady_pure _
    · exact steady_refuse _

theorem key_of_readFields {v : Node} {parts : Parts (Read FieldKey × Node)}
    (gives : Gives v.readFields (.inr parts)) :
    ∃ members closed depth, v.tree = .object members closed ∧
      v.depth = depth + 1 ∧
      parts = ⟨members.map fun (key, t) => (.name <$> readKey key, ⟨t, depth⟩),
        close closed⟩ := by
  unfold readFields at gives
  split at gives
  next =>
      obtain ⟨_, -, other⟩ := gives_map gives
      cases other
  next =>
      obtain ⟨found, gives, same⟩ := gives_bind gives
      unfold readMembers at gives
      split at gives
      next members closed object =>
          unfold enter at gives
          split at gives
          next => exact absurd gives (not_gives_throw _)
          next depth deep =>
              cases gives_pure.mp gives
              cases gives_pure.mp same
              refine ⟨members, closed, depth, object, deep, ?_⟩
              simp [List.map_map, Function.comp_def]
      next => exact absurd gives not_gives_refuse

theorem tree_of_readText {v : Node} {s : String} (gives : Gives v.readText s) :
    v.tree = .text (some s) := by
  unfold readText at gives
  split at gives
  next same =>
      cases gives_pure.mp gives
      exact same
  next => exact absurd gives not_gives_refuse

instance : SteadySource Node where
  fields := steady_readFields
  key gives := by
    obtain ⟨members, closed, depth, -, -, rfl⟩ := key_of_readFields gives
    intro member listed
    obtain ⟨⟨key, t⟩, -, rfl⟩ := List.mem_map.mp listed
    exact (steady_readKey key).map _
  text_of_json {v s s'} json text := by
    obtain ⟨t, depth⟩ := v
    obtain rfl : t = .text (some s') := tree_of_readText text
    obtain ⟨w, present, json⟩ := gives_optional json
    cases gives_pure.mp present
    cases gives_pure.mp json
    rfl

end Json.Node

namespace Yaml

open Reading

theorem text_of_plainDatum? {s s' : String}
    (same : plainDatum? s = some (.text s')) : s' = s := by
  have fraction : (if isZeroPadded s.toList then Datum.text s
      else ((float? s.toList).map Datum.float).getD (.text s)) = .text s' →
        s' = s := by
    intro same
    split at same
    · cases same
      rfl
    · cases found : float? s.toList with
      | none =>
          rw [found] at same
          cases same
          rfl
      | some x =>
          rw [found] at same
          cases same
  unfold plainDatum? at same
  dsimp only at same
  split at same
  next => cases same
  next =>
      split at same
      next => cases same
      next =>
          split at same
          next =>
              split at same
              next => cases same
              next =>
                  split at same
                  next => cases same
                  next => exact fraction (Option.some.inj same)
          next => exact fraction (Option.some.inj same)

theorem text_of_scalarDatum? {tag : Option String} {style : Style} {s s' : String}
    (same : scalarDatum? tag style s = some (.text s')) : s' = s := by
  unfold scalarDatum? at same
  split at same
  next =>
      split at same
      next => exact text_of_plainDatum? same
      next =>
          cases same
          rfl
  next t =>
      split_ifs at same
      · obtain ⟨_, -, other⟩ := Option.map_eq_some_iff.mp same
        cases other
      · obtain ⟨_, -, other⟩ := Option.bind_eq_some_iff.mp same
        split_ifs at other
        cases other
      · obtain ⟨_, -, other⟩ := Option.map_eq_some_iff.mp same
        cases other
      · cases same
      · cases same
        rfl

namespace Cursor

def target? (stream : Stream) : Node Nat → Option (Node Nat)
  | .alias n => stream.find? n
  | node => some node

theorem target_of_follow {stream : Stream} {node target : Node Nat}
    (gives : Gives (follow stream node) target) :
    target? stream node = some target := by
  unfold follow at gives
  split at gives
  next n =>
      obtain ⟨_, -, gives⟩ := gives_bind gives
      obtain ⟨p, -, gives⟩ := gives_bind gives
      split at gives
      next => exact absurd gives (not_gives_throw _)
      next =>
          split at gives
          next node found =>
              cases gives_pure.mp gives
              exact found
          next => exact absurd gives (not_gives_throw _)
  next other =>
      cases gives_pure.mp gives
      unfold target?
      split
      next => exact absurd rfl (other _)
      next => rfl

theorem steady_follow (stream : Stream) (node : Node Nat) :
    Steady (follow stream node) := fun _ _ first second =>
  Option.some.inj ((target_of_follow first).symm.trans (target_of_follow second))

theorem steady_resolved (v : Cursor) : Steady v.resolved := by
  unfold resolved
  split
  · exact steady_pure _
  · exact (steady_follow _ _).map _

theorem steady_enter {α : Type} {v : Cursor}
    {inside : (Node Nat → Cursor) → Read α} (steady : ∀ down, Steady (inside down)) :
    Steady (v.enter inside) := by
  unfold enter
  split
  · exact steady_throw _
  · exact steady _

theorem steady_readText (v : Cursor) : Steady v.readText := by
  refine (steady_resolved v).bind fun target => ?_
  split
  · exact steady_pure _
  · exact steady_throw _

theorem steady_readMembers (v : Cursor) : Steady v.readMembers := by
  refine (steady_resolved v).bind fun target => ?_
  split
  · exact steady_pure _
  · exact steady_enter fun down => steady_pure _
  · split
    · exact steady_pure _
    · exact steady_throw _
  · exact steady_throw _

theorem key_of_readMembers {v : Cursor} {parts : Parts (Read String × Cursor)}
    (gives : Gives v.readMembers parts) :
    ∀ member ∈ parts.items, Steady member.1 := by
  obtain ⟨target, -, gives⟩ := gives_bind gives
  split at gives
  next =>
      cases gives_pure.mp gives
      nofun
  next members =>
      unfold enter at gives
      split at gives
      next => exact absurd gives (not_gives_throw _)
      next =>
          cases gives_pure.mp gives
          intro member listed
          obtain ⟨⟨key, node⟩, -, rfl⟩ := List.mem_map.mp listed
          exact steady_readText _
  next =>
      split at gives
      next =>
          cases gives_pure.mp gives
          nofun
      next => exact absurd gives (not_gives_throw _)
  next => exact absurd gives (not_gives_throw _)

theorem scalar_of_readText {v : Cursor} {s : String} (gives : Gives v.readText s) :
    ∃ anchor tag style, Gives v.resolved (some (.scalar anchor tag style s)) := by
  obtain ⟨target, resolved, gives⟩ := gives_bind gives
  split at gives
  next anchor tag style s' =>
      cases gives_pure.mp gives
      exact ⟨anchor, tag, style, resolved⟩
  next => exact absurd gives (not_gives_throw _)

theorem node_of_readPresent {v w : Cursor}
    (gives : Gives v.readPresent (some w)) :
    ∃ node, Gives v.resolved (some node) ∧ w = { v with node := some node } := by
  obtain ⟨target, resolved, gives⟩ := gives_bind gives
  cases target with
  | none => cases gives_pure.mp gives
  | some node =>
      refine ⟨node, resolved, ?_⟩
      dsimp only at gives
      split at gives
      next =>
          split at gives
          next =>
              have same := gives_pure.mp gives
              split_ifs at same
              cases same
              rfl
          next =>
              split_ifs at gives
              · cases gives_pure.mp gives
              · exact absurd gives (not_gives_throw _)
              · cases gives_pure.mp gives
                rfl
      next =>
          cases gives_pure.mp gives
          rfl

theorem text_of_readJson {stream : Stream} {depth : Nat}
    {anchor tag : Option String} {style : Style} {s s' : String}
    (gives : Gives (readJson stream depth (.scalar anchor tag style s))
      (.string s')) : s' = s := by
  have gives : Gives (scalarJson tag style s) (.string s') := by
    cases depth <;> exact gives
  obtain ⟨d, found, gives⟩ := gives_bind gives
  unfold scalar at found
  split at found
  next d' datum =>
      cases gives_pure.mp found
      split at gives
      next j json =>
          cases gives_pure.mp gives
          cases eq_text_of_toJson? json
          exact text_of_scalarDatum? datum
      next => exact absurd gives (not_gives_throw _)
  next => exact absurd found (not_gives_throw _)

instance : SteadySource Cursor where
  fields v := (steady_readMembers v).bind fun _ => steady_pure _
  key gives := by
    obtain ⟨parts, found, same⟩ := gives_bind (r := readMembers _) gives
    cases gives_pure.mp same
    intro member listed
    obtain ⟨⟨key, w⟩, mem, rfl⟩ := List.mem_map.mp listed
    exact (key_of_readMembers found _ mem).map _
  text_of_json {v s s'} json text := by
    obtain ⟨anchor, tag, style, resolved⟩ := scalar_of_readText text
    obtain ⟨w, present, json⟩ := gives_optional json
    obtain ⟨node, resolved', rfl⟩ := node_of_readPresent present
    cases steady_resolved v _ _ resolved resolved'
    exact (text_of_readJson json).symm

end Cursor

end Yaml

end ApiBindings
