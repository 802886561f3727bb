import ApiBindings.Proofs.Reading.Indifference

/-!
Documents without the entries that are passed over in paths. They are read as
the documents are in which these entries stand.
-/

namespace ApiBindings

namespace Reading

def isUnknown (key : String) : Bool :=
  !Text.eqIgnoreCase key "parameters" && (Verb.ofName? key).isNone

section Members

variable {ν γ : Type} [Source ν] {ignored : String → Bool} {R : ν → ν → Prop}

/-- The second members are the first ones less some under keys that are to be
ignored; values that are left are related. -/
inductive Thinned (ignored : String → Bool) (R : ν → ν → Prop) :
    List (Read String × ν) → List (Read String × ν) → Prop
  | nil : Thinned ignored R [] []
  | dropped {key : String} {w : ν} {ms ns : List (Read String × ν)}
      (known : ignored key = true) (passed : Source.skip w = pure ())
      (rest : Thinned ignored R ms ns) : Thinned ignored R ((pure key, w) :: ms) ns
  | kept {m n : Read String × ν} {ms ns : List (Read String × ν)}
      (keys : Alike Eq m.1 n.1) (values : R m.2 n.2)
      (rest : Thinned ignored R ms ns) : Thinned ignored R (m :: ms) (n :: ns)

structure Parts.Thinned (ignored : String → Bool) (R : ν → ν → Prop)
    (parts others : Parts (Read String × ν)) : Prop where
  items : Reading.Thinned ignored R parts.items others.items
  close : Alike Eq parts.close others.close

theorem thinned_of_matched {parts others : Parts (Read String × ν)}
    (matched : parts.Matched SameMember others) (related : ∀ w, R w w) :
    parts.Thinned ignored R others := by
  obtain ⟨items, close⟩ := matched
  refine ⟨?_, close⟩
  revert items
  generalize parts.items = ms
  generalize others.items = ns
  intro items
  induction items with
  | nil => exact .nil
  | cons same _ induction =>
      obtain ⟨keys, values⟩ := same
      exact .kept keys (values ▸ related _) induction

/-- A loop that does nothing for ignored keys runs alike over the members that
are left. -/
theorem alike_thinned {step : γ → Read String × ν → Read γ}
    {ms ns : List (Read String × ν)} {c : γ} (thinned : Thinned ignored R ms ns)
    (drop : ∀ c key w, ignored key = true → Source.skip w = pure () →
      Alike Eq (step c (pure key, w)) (pure c))
    (keep : ∀ c m n, Alike Eq m.1 n.1 → R m.2 n.2 →
      Alike Eq (step c m) (step c n)) :
    Alike Eq (ms.foldlM step c) (ns.foldlM step c) := by
  induction thinned generalizing c with
  | nil => exact .pure rfl
  | @dropped key w ms ns known passed _ induction =>
      rw [List.foldlM_cons, ← pure_bind c fun c => ns.foldlM step c]
      refine (drop c key w known passed).bind fun c' c same => ?_
      rw [same]
      exact induction
  | @kept m n ms ns keys values _ induction =>
      rw [List.foldlM_cons, List.foldlM_cons]
      refine (keep c m n keys values).bind fun c' c same => ?_
      rw [same]
      exact induction

variable [IndifferentSource ν] {v w : ν}

theorem alike_pathItem
    (thinned : Alike (Parts.Thinned isUnknown Eq) (Source.members v)
      (Source.members w)) : Alike Eq (pathItem v) (pathItem w) := by
  refine thinned.bind fun parts others thinned => ?_
  refine Alike.bind (alike_thinned thinned.items ?drop ?keep)
    fun item _ same => ?close
  case drop =>
      intro item key w unknown passed
      obtain ⟨named, none⟩ : Text.eqIgnoreCase key "parameters" = false ∧
          Verb.ofName? key = none := by
        simpa [isUnknown] using unknown
      simp only [pure_bind, named, none, passed, Bool.false_eq_true, if_false]
      split
      · exact Alike.noted (.pure rfl) _ _
      · exact Alike.noted (.pure rfl) _ _
  case keep =>
      intro item m n keys values
      obtain ⟨key, w⟩ := m
      obtain ⟨key', w'⟩ := n
      obtain rfl : w = w' := values
      refine keys.bind fun key _ same => ?_
      rw [← same]
      split
      · exact (indifferent_list indifferent_parameterUse w).bind fun uses => .pure rfl
      · split
        · exact (indifferent_operation w).bind fun o => .pure rfl
        · have kept : Indifferent (do Source.skip w; pure item) :=
            (IndifferentSource.skip w).bind fun _ => .pure rfl
          dsimp only
          split
          · exact (indifferent_note _ _).bind fun _ => kept
          · exact (indifferent_note _ _).bind fun _ => kept
  case close =>
      rw [same]
      exact thinned.close.bind fun _ _ _ => .pure rfl

theorem indifferent_pathItem (v : ν) : Indifferent (pathItem v) :=
  alike_pathItem ((IndifferentSource.members v).imp fun _ _ matched =>
    thinned_of_matched matched fun _ => rfl)

/-- Values that are alike both as paths and when they are passed over. -/
def SameItem (v w : ν) : Prop :=
  Alike Eq (pathItem v) (pathItem w) ∧ Alike Eq (Source.skip v) (Source.skip w)

omit [IndifferentSource ν] in
theorem alike_paths
    (thinned : Alike (Parts.Thinned isExtension SameItem) (Source.members v)
      (Source.members w)) : Alike Eq (paths v) (paths w) := by
  refine thinned.bind fun parts others thinned => ?_
  refine Alike.bind (alike_thinned thinned.items ?drop ?keep)
    fun items _ same => ?close
  case drop =>
      intro items key w extension passed
      simp only [pure_bind, extension, passed, if_true]
      exact Alike.noted (.pure rfl) _ _
  case keep =>
      intro items m n keys values
      obtain ⟨key, w⟩ := m
      obtain ⟨key', w'⟩ := n
      obtain ⟨item, skipped⟩ := values
      refine keys.bind fun key _ same => ?_
      rw [← same]
      split
      · refine (indifferent_note _ _).bind fun _ => ?_
        exact skipped.bind fun _ _ _ => .pure rfl
      · refine item.bind fun item _ same => ?_
        rw [same]
        exact .pure rfl
  case close =>
      rw [same]
      exact thinned.close.bind fun _ _ _ => .pure rfl

theorem indifferent_paths (v : ν) : Indifferent (paths v) :=
  alike_paths ((IndifferentSource.members v).imp fun _ _ matched =>
    thinned_of_matched matched fun w =>
      ⟨indifferent_pathItem w, IndifferentSource.skip w⟩)

theorem indifferent_documentFields :
    ∀ field ∈ (documentFields : List (Field ν Document)),
      ∀ w, Indifferent (field.read w) := by
  simp [documentFields, indifferent_paths, indifferent_table indifferent_securityScheme]

omit [IndifferentSource ν] in
/-- Paths that are read alike give the same member of a document. -/
theorem sameField_paths {key : Read FieldKey} (named : key = pure (.name "paths"))
    (same : Alike Eq (paths v) (paths w)) :
    SameField documentFields (key, v) (key, w) := by
  have found : (FieldKey.name "paths").find? (documentFields : List (Field ν Document)) =
      some (.may "paths" paths fun d x => { d with paths := x }) := rfl
  rw [named]
  refine .pure ⟨rfl, ?_⟩
  rw [found]
  refine same.bind fun items _ same => ?_
  rw [same]
  exact .pure rfl

end Members

theorem indifferent_document {ν : Type} [Source ν] [IndifferentSource ν] (v : ν) :
    Indifferent (document v) :=
  indifferent_record indifferent_documentFields v

/-- How the objects of a format are written: the texts of keys, and the members
of a value that is an object. -/
structure Objects (κ τ : Type) where
  text : κ → Option String
  onMembers : (List (κ × τ) → List (κ × τ)) → τ → τ

namespace Objects

variable {κ τ : Type} (objects : Objects κ τ)

def thin (ignored : String → Bool) (change : τ → τ) (ms : List (κ × τ)) :
    List (κ × τ) :=
  (ms.filter fun m => !(objects.text m.1).any ignored).map fun m => (m.1, change m.2)

def thinItem : τ → τ := objects.onMembers (objects.thin isUnknown id)

def thinPaths : τ → τ :=
  objects.onMembers (objects.thin isExtension objects.thinItem)

def thinMember (m : κ × τ) : κ × τ :=
  if objects.text m.1 = some "paths" then (m.1, objects.thinPaths m.2) else m

def thinDocument : τ → τ := objects.onMembers (List.map objects.thinMember)

variable {objects} {ν : Type} [Source ν] [IndifferentSource ν] {ms : List (κ × τ)}
  (key : κ → Read String) (value : τ → ν)

omit [IndifferentSource ν] in
theorem thinned_thin {ignored : String → Bool} {R : ν → ν → Prop} {change : τ → τ}
    (named : ∀ k s, objects.text k = some s → key k = pure s)
    (readable : ∀ k, Indifferent (key k))
    (passed : ∀ m ∈ ms, Source.skip (value m.2) = pure ())
    (related : ∀ m ∈ ms, R (value m.2) (value (change m.2))) :
    Thinned ignored R (ms.map fun m => (key m.1, value m.2))
      ((objects.thin ignored change ms).map fun m => (key m.1, value m.2)) := by
  induction ms with
  | nil => exact .nil
  | cons m ms induction =>
      obtain ⟨passes, passed⟩ := List.forall_mem_cons.mp passed
      obtain ⟨relates, related⟩ := List.forall_mem_cons.mp related
      have rest := induction passed related
      cases spelled : objects.text m.1 with
      | none =>
          have left : objects.thin ignored change (m :: ms) =
              (m.1, change m.2) :: objects.thin ignored change ms := by
            simp [thin, spelled]
          rw [left]
          exact .kept (readable m.1) relates rest
      | some s =>
          cases known : ignored s with
          | true =>
              have left : objects.thin ignored change (m :: ms) =
                  objects.thin ignored change ms := by
                simp [thin, spelled, known]
              rw [left, List.map_cons, named m.1 s spelled]
              exact .dropped known passes rest
          | false =>
              have left : objects.thin ignored change (m :: ms) =
                  (m.1, change m.2) :: objects.thin ignored change ms := by
                simp [thin, spelled, known]
              rw [left]
              exact .kept (readable m.1) relates rest

theorem sameFields_thin
    (named : ∀ k s, objects.text k = some s → key k = pure s)
    (readable : ∀ k, Indifferent (key k))
    (same : ∀ m ∈ ms,
      Alike Eq (paths (value m.2)) (paths (value (objects.thinPaths m.2)))) :
    List.Forall₂ (SameField documentFields)
      (ms.map fun m => (FieldKey.name <$> key m.1, value m.2))
      ((ms.map objects.thinMember).map fun m =>
        (FieldKey.name <$> key m.1, value m.2)) := by
  rw [List.map_map, List.forall₂_map_left_iff, List.forall₂_map_right_iff,
    List.forall₂_same]
  intro m listed
  dsimp only [Function.comp_apply, thinMember]
  split
  next spelled =>
      refine sameField_paths ?_ (same m listed)
      rw [named m.1 _ spelled]
      rfl
  next =>
      refine sameField_of_sameMember indifferent_documentFields ⟨?_, rfl⟩
      exact (readable m.1).map _

end Objects

end Reading

namespace Json

open Reading

namespace Tree

def objects : Objects (Option String) Tree where
  text := id
  onMembers change
    | .object members closed => .object (change members) closed
    | t => t

theorem intact_of_object {members : List (Option String × Tree)} {closed : Bool}
    (intact : (object members closed).intact = true) :
    closed = true ∧ ∀ m ∈ members, m.2.intact = true := by
  rw [Tree.intact, Bool.and_eq_true] at intact
  refine ⟨intact.1, ?_⟩
  have inner := intact.2
  clear intact
  induction members with
  | nil => nofun
  | cons m members induction =>
      rw [intactMembers, Bool.and_eq_true] at inner
      exact List.forall_mem_cons.mpr ⟨inner.1, induction inner.2⟩

theorem intact_object {members : List (Option String × Tree)}
    (inner : ∀ m ∈ members, m.2.intact = true) :
    (object members true).intact = true := by
  rw [Tree.intact, Bool.true_and]
  induction members with
  | nil => rfl
  | cons m members induction =>
      obtain ⟨head, tail⟩ := List.forall_mem_cons.mp inner
      rw [intactMembers, head, induction tail]
      rfl

theorem intact_thinItem {t : Tree} (intact : t.intact = true) :
    (objects.thinItem t).intact = true := by
  cases t with
  | object members closed =>
      obtain ⟨rfl, inner⟩ := intact_of_object intact
      refine intact_object fun m listed => ?_
      obtain ⟨n, kept, rfl⟩ := List.mem_map.mp listed
      exact inner n (List.mem_of_mem_filter kept)
  | _ => exact intact

end Tree

namespace Node

theorem skip_of_intact {t : Tree} {depth : Nat} (intact : t.intact = true) :
    Source.skip (⟨t, depth⟩ : Node) = pure () :=
  if_pos intact

theorem readKey_of_text (key : Option String) (s : String)
    (named : Tree.objects.text key = some s) : readKey key = pure s := by
  cases named
  rfl

theorem thinned_members {members : List (Option String × Tree)} {closed : Bool}
    {depth : Nat} {ignored : String → Bool} {R : Node → Node → Prop}
    {change : Tree → Tree} (intact : ∀ m ∈ members, m.2.intact = true)
    (related : ∀ m ∈ members, ∀ depth, R ⟨m.2, depth⟩ ⟨change m.2, depth⟩) :
    Alike (Parts.Thinned ignored R)
      (Source.members (⟨.object members closed, depth⟩ : Node))
      (Source.members
        (⟨.object (Tree.objects.thin ignored change members) closed, depth⟩ : Node)) := by
  cases depth with
  | zero => exact .throw _
  | succ depth =>
      refine .pure ⟨?_, indifferent_close closed⟩
      exact Objects.thinned_thin readKey (fun t => (⟨t, depth⟩ : Node)) readKey_of_text
        indifferent_readKey (fun m listed => skip_of_intact (intact m listed))
        fun m listed => related m listed depth

theorem sameItem_thinItem {t : Tree} (intact : t.intact = true) (depth : Nat) :
    SameItem (⟨t, depth⟩ : Node) ⟨Tree.objects.thinItem t, depth⟩ := by
  refine ⟨?_, ?_⟩
  · cases t with
    | object members closed =>
        obtain ⟨-, inner⟩ := Tree.intact_of_object intact
        exact alike_pathItem (thinned_members inner fun _ _ _ => rfl)
    | _ => exact indifferent_pathItem _
  · rw [skip_of_intact intact, skip_of_intact (Tree.intact_thinItem intact)]
    exact .pure rfl

theorem alike_thinPaths {t : Tree} (intact : t.intact = true) (depth : Nat) :
    Alike Eq (paths (⟨t, depth⟩ : Node))
      (paths (⟨Tree.objects.thinPaths t, depth⟩ : Node)) := by
  cases t with
  | object members closed =>
      obtain ⟨-, inner⟩ := Tree.intact_of_object intact
      exact alike_paths (thinned_members inner fun m listed =>
        sameItem_thinItem (inner m listed))
  | _ => exact indifferent_paths _

theorem alike_thinDocument {t : Tree} (intact : t.intact = true) (depth : Nat) :
    Alike Eq (document (⟨t, depth⟩ : Node))
      (document (⟨Tree.objects.thinDocument t, depth⟩ : Node)) := by
  cases t with
  | object members closed =>
      obtain ⟨-, inner⟩ := Tree.intact_of_object intact
      refine alike_record indifferent_documentFields ?_
      cases depth with
      | zero => exact .throw _
      | succ depth =>
          refine .pure (.inr ⟨?_, indifferent_close closed⟩)
          dsimp only
          rw [List.map_map, List.map_map]
          exact Objects.sameFields_thin readKey (fun t => (⟨t, depth⟩ : Node))
            readKey_of_text indifferent_readKey
            fun m listed => alike_thinPaths (inner m listed) depth
  | _ => exact indifferent_document _

end Node

end Json

namespace Yaml

open Reading

/-- Members whose keys are references are left alone. -/
def Node.mappings : Objects (Node Nat) (Node Nat) where
  text
    | .scalar _ _ _ s => some s
    | _ => none
  onMembers change
    | .mapping anchor tag members => .mapping anchor tag (change members)
    | node => node

namespace Cursor

theorem readText_of_text (stream : Stream) (depth : Nat) (key : Node Nat)
    (s : String) (named : Node.mappings.text key = some s) :
    (⟨stream, some key, depth⟩ : Cursor).readText = pure s := by
  cases key with
  | scalar anchor tag style s' =>
      cases named
      rfl
  | _ => cases named

theorem thinned_members {stream : Stream} {anchor tag : Option String}
    {members : List (Node Nat × Node Nat)} {depth : Nat} {ignored : String → Bool}
    {R : Cursor → Cursor → Prop} {change : Node Nat → Node Nat}
    (related : ∀ node depth,
      R ⟨stream, some node, depth⟩ ⟨stream, some (change node), depth⟩) :
    Alike (Parts.Thinned ignored R)
      (Source.members (⟨stream, some (.mapping anchor tag members), depth⟩ : Cursor))
      (Source.members (⟨stream, some (.mapping anchor tag
        (Node.mappings.thin ignored change members)), depth⟩ : Cursor)) := by
  cases depth with
  | zero => exact .throw _
  | succ depth =>
      refine .pure ⟨?_, .pure rfl⟩
      exact Objects.thinned_thin
        (fun key => (⟨stream, some key, depth⟩ : Cursor).readText)
        (fun node => (⟨stream, some node, depth⟩ : Cursor))
        (readText_of_text stream depth) (fun key => indifferent_readText _)
        (fun _ _ => rfl) fun m _ => related m.2 depth

theorem sameItem_thinItem (stream : Stream) (node : Node Nat) (depth : Nat) :
    SameItem (⟨stream, some node, depth⟩ : Cursor)
      ⟨stream, some (Node.mappings.thinItem node), depth⟩ := by
  refine ⟨?_, .pure rfl⟩
  cases node with
  | mapping anchor tag members =>
      exact alike_pathItem (thinned_members fun _ _ => rfl)
  | _ => exact indifferent_pathItem _

theorem alike_thinPaths (stream : Stream) (node : Node Nat) (depth : Nat) :
    Alike Eq (paths (⟨stream, some node, depth⟩ : Cursor))
      (paths (⟨stream, some (Node.mappings.thinPaths node), depth⟩ : Cursor)) := by
  cases node with
  | mapping anchor tag members =>
      exact alike_paths (thinned_members (sameItem_thinItem stream))
  | _ => exact indifferent_paths _

theorem alike_thinDocument (stream : Stream) (node : Node Nat) (depth : Nat) :
    Alike Eq (document (⟨stream, some node, depth⟩ : Cursor))
      (document (⟨stream, some (Node.mappings.thinDocument node), depth⟩ : Cursor)) := by
  cases node with
  | mapping anchor tag members =>
      refine alike_record indifferent_documentFields ?_
      cases depth with
      | zero => exact .throw _
      | succ depth =>
          refine .pure (.inr ⟨?_, .pure rfl⟩)
          dsimp only
          rw [List.map_map, List.map_map]
          exact Objects.sameFields_thin
            (fun key => (⟨stream, some key, depth⟩ : Cursor).readText)
            (fun node => (⟨stream, some node, depth⟩ : Cursor))
            (readText_of_text stream depth) (fun key => indifferent_readText _)
            fun m _ => alike_thinPaths stream m.2 depth
  | _ => exact indifferent_document _

end Cursor

end Yaml

end ApiBindings
