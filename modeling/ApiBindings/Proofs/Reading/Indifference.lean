import ApiBindings.Proofs.Reading.Alike

/-!
No reader of a document depends on what has been noted, in a text of either
format.
-/

namespace ApiBindings

open Reading

namespace Reading

variable {α : Type}

theorem indifferent_fieldKey (d : Datum) : Indifferent (fieldKey d) := by
  unfold fieldKey
  split
  · exact .pure rfl
  · split
    · exact .throw _
    · exact .pure rfl
  · exact .throw _

theorem indifferent_textKey (d : Datum) : Indifferent (textKey d) := by
  unfold textKey
  split
  · exact .pure rfl
  · exact .throw _

theorem sameMember_map {κ κ' ν : Type} {m n : Read κ × ν} (f : κ → κ')
    (same : SameMember m n) : SameMember (f <$> m.1, m.2) (f <$> n.1, n.2) := by
  refine ⟨same.1.map fun k _ same => ?_, same.2⟩
  rw [same]

/-- Members are in step with themselves if their keys are indifferent. -/
theorem matched_members {κ ν β : Type} {members : List β} {member : β → Read κ × ν}
    {close : Read Unit} (keys : ∀ b, Indifferent (member b).1)
    (closed : Indifferent close) :
    Parts.Matched SameMember ⟨members.map member, close⟩
      ⟨members.map member, close⟩ := by
  refine ⟨List.forall₂_same.mpr fun m listed => ?_, closed⟩
  obtain ⟨b, -, rfl⟩ := List.mem_map.mp listed
  exact ⟨keys b, rfl⟩

theorem matched_items {ν : Type} {items : List ν} {close : Read Unit}
    (closed : Indifferent close) :
    Parts.Matched Eq ⟨items, close⟩ ⟨items, close⟩ :=
  ⟨List.forall₂_same.mpr fun _ _ => rfl, closed⟩

instance : IndifferentSource Datum where
  text := indifferent_textKey
  flag d := by
    cases d with
    | bool b => exact .pure rfl
    | _ => exact .throw _
  present d := by
    cases d with
    | _ => exact .pure rfl
  items d := by
    cases d with
    | list items => exact .pure (matched_items (.pure rfl))
    | _ => exact .throw _
  members d := by
    cases d with
    | table members =>
        exact .pure (matched_members (fun b => indifferent_textKey b.1) (.pure rfl))
    | _ => exact .throw _
  fields d := by
    cases d with
    | list items => exact .pure (.inl (matched_items (.pure rfl)))
    | table members =>
        exact .pure (.inr (matched_members (fun b => indifferent_fieldKey b.1)
          (.pure rfl)))
    | _ => exact .throw _
  choice d := by
    dsimp only [Source.choice]
    split
    · exact .pure ⟨rfl, .pure rfl⟩
    · exact .pure ⟨rfl, .pure rfl⟩
    · exact .throw _
  datum d := .pure rfl
  json d := by
    dsimp only [Source.json]
    split
    · exact .pure rfl
    · exact .throw _
  skip d := .pure rfl

end Reading

namespace Json.Node

variable {α : Type} {R : α → α → Prop}

theorem alike_refuse (t : Tree) : Alike R (refuse t) (refuse t) := by
  unfold refuse
  split
  case h_2 =>
      split
      · exact .throw _
      · exact .throw _
  all_goals exact .throw _

theorem alike_enter {v : Node} {inside : Nat → Read α}
    (same : ∀ depth, Alike R (inside depth) (inside depth)) :
    Alike R (v.enter inside) (v.enter inside) := by
  unfold enter
  split
  · exact .throw _
  · exact same _

theorem indifferent_close (closed : Bool) : Indifferent (close closed) := by
  unfold close
  split
  · exact .pure rfl
  · exact .throw _

theorem indifferent_readKey (key : Option String) : Indifferent (readKey key) := by
  cases key with
  | none => exact .throw _
  | some k => exact .pure rfl

theorem alike_readItems (v : Node) :
    Alike (Parts.Matched Eq) v.readItems v.readItems := by
  unfold readItems
  split
  · exact alike_enter fun _ => .pure (matched_items (indifferent_close _))
  · exact alike_refuse _

theorem alike_readMembers (v : Node) :
    Alike (Parts.Matched SameMember) v.readMembers v.readMembers := by
  unfold readMembers
  split
  · exact alike_enter fun _ =>
      .pure (matched_members (fun m => indifferent_readKey m.1) (indifferent_close _))
  · exact alike_refuse _

theorem alike_readChoice (v : Node) :
    Alike SameChoice v.readChoice v.readChoice := by
  unfold readChoice
  split
  · exact .pure ⟨rfl, .pure rfl⟩
  · refine alike_enter fun _ => ?_
    split
    · exact .throw _
    · refine (indifferent_readKey _).bind fun name => .pure ⟨rfl, ?_⟩
      dsimp only
      split
      · exact indifferent_close _
      · exact alike_refuse _
  · exact .throw _

mutual

theorem indifferent_readDatum (depth : Nat) :
    ∀ t, Indifferent (readDatum depth t)
  | .broken => .throw _
  | .null => .pure rfl
  | .bool b => .pure rfl
  | .number n => by
      rw [readDatum]
      split
      · exact .pure rfl
      · exact .throw _
  | .text (some s) => .pure rfl
  | .text none => .throw _
  | .array items closed => by
      cases depth with
      | zero => exact .throw _
      | succ depth =>
          refine (indifferent_readDatumItems depth items).bind fun values => ?_
          exact (indifferent_close closed).bind fun _ => .pure rfl
  | .object members closed => by
      cases depth with
      | zero => exact .throw _
      | succ depth =>
          refine (indifferent_readDatumMembers depth members).bind fun values => ?_
          exact (indifferent_close closed).bind fun _ => .pure rfl

theorem indifferent_readDatumItems (depth : Nat) :
    ∀ ts, Indifferent (readDatumItems depth ts)
  | [] => .pure rfl
  | t :: ts => by
      refine (indifferent_readDatum depth t).bind fun d => ?_
      exact (indifferent_readDatumItems depth ts).bind fun ds => .pure rfl

theorem indifferent_readDatumMembers (depth : Nat) :
    ∀ ts, Indifferent (readDatumMembers depth ts)
  | [] => .pure rfl
  | (key, t) :: ts => by
      refine (indifferent_readKey key).bind fun k => ?_
      refine (indifferent_readDatum depth t).bind fun d => ?_
      exact (indifferent_readDatumMembers depth ts).bind fun ds => .pure rfl

end

instance : IndifferentSource Node where
  text v := by
    change Indifferent v.readText
    unfold readText
    split
    · exact .pure rfl
    · exact alike_refuse _
  flag v := by
    dsimp only [Source.flag]
    split
    · exact .pure rfl
    · exact alike_refuse _
  present v := by
    dsimp only [Source.present]
    split
    · exact .pure rfl
    · exact .pure rfl
  items := alike_readItems
  members := alike_readMembers
  fields v := by
    change Alike _ v.readFields v.readFields
    unfold readFields
    split
    · exact (alike_readItems v).map fun _ _ matched => .inl matched
    · refine (alike_readMembers v).bind fun parts others matched =>
        .pure (.inr ⟨?_, matched.close⟩)
      dsimp only
      rw [List.forall₂_map_left_iff, List.forall₂_map_right_iff]
      exact matched.items.imp fun _ _ same => sameMember_map _ same
  choice := alike_readChoice
  datum v := indifferent_readDatum v.depth v.tree
  json v := by
    refine (indifferent_readDatum v.depth v.tree).bind fun d => ?_
    split
    · exact .pure rfl
    · exact .throw _
  skip v := by
    dsimp only [Source.skip]
    split
    · exact .pure rfl
    · exact .throw _

end Json.Node

namespace Yaml.Cursor

/-- Following a reference looks at the count of references only. -/
theorem indifferent_follow (stream : Stream) (node : Node Nat) :
    Indifferent (follow stream node) := by
  unfold follow
  split
  next n =>
      have counted : Alike (fun _ _ : Unit => True)
          (modify fun p : Progress => { p with followed := p.followed + 1 })
          (modify fun p : Progress => { p with followed := p.followed + 1 }) :=
        fun p q same => .ok trivial (congrArg (· + 1) same)
      have asked : Alike (fun p q : Progress => p.followed = q.followed) get get :=
        fun p q same => .ok same same
      refine counted.bind fun _ _ _ => asked.bind fun p q same => ?_
      rw [same]
      split
      · exact .throw _
      · split
        · exact .pure rfl
        · exact .throw _
  next => exact .pure rfl

theorem indifferent_resolved (v : Cursor) : Indifferent v.resolved := by
  unfold resolved
  split
  · exact .pure rfl
  · exact (indifferent_follow _ _).map _

theorem indifferent_readText (v : Cursor) : Indifferent v.readText := by
  refine (indifferent_resolved v).bind fun target => ?_
  split
  · exact .pure rfl
  · exact .throw _

theorem alike_enter {α : Type} {R : α → α → Prop} {v : Cursor}
    {inside : (Node Nat → Cursor) → Read α}
    (same : ∀ down, Alike R (inside down) (inside down)) :
    Alike R (v.enter inside) (v.enter inside) := by
  unfold enter
  split
  · exact .throw _
  · exact same _

theorem alike_readMembers (v : Cursor) :
    Alike (Parts.Matched SameMember) v.readMembers v.readMembers := by
  refine (indifferent_resolved v).bind fun target => ?_
  split
  · exact .pure ⟨.nil, .pure rfl⟩
  · exact alike_enter fun down =>
      .pure (matched_members (fun m => indifferent_readText _) (.pure rfl))
  · split
    · exact .pure ⟨.nil, .pure rfl⟩
    · exact .throw _
  · exact .throw _

theorem indifferent_scalar (tag : Option String) (style : Style) (s : String) :
    Indifferent (scalar tag style s) := by
  unfold scalar
  split
  · exact .pure rfl
  · exact .throw _

theorem indifferent_scalarJson (tag : Option String) (style : Style) (s : String) :
    Indifferent (scalarJson tag style s) := by
  refine (indifferent_scalar tag style s).bind fun d => ?_
  split
  · exact .pure rfl
  · exact .throw _

theorem indifferent_readDatum (stream : Stream) (depth : Nat) (node : Node Nat) :
    Indifferent (readDatum stream depth node) := by
  induction depth generalizing node with
  | zero =>
      refine (indifferent_follow stream node).bind fun target => ?_
      split
      · exact indifferent_scalar _ _ _
      · exact .throw _
  | succ depth induction =>
      refine (indifferent_follow stream node).bind fun target => ?_
      split
      · exact indifferent_scalar _ _ _
      · split
        · exact .throw _
        · exact (indifferent_mapM _ induction).bind fun _ => .pure rfl
      · split
        · exact .throw _
        · refine (indifferent_mapM _ fun member => ?_).bind fun _ => .pure rfl
          exact (induction _).bind fun _ => (induction _).bind fun _ => .pure rfl
      · exact .throw _

theorem indifferent_readJson (stream : Stream) (depth : Nat) (node : Node Nat) :
    Indifferent (readJson stream depth node) := by
  induction depth generalizing node with
  | zero =>
      refine (indifferent_follow stream node).bind fun target => ?_
      split
      · exact indifferent_scalarJson _ _ _
      · exact .throw _
  | succ depth induction =>
      refine (indifferent_follow stream node).bind fun target => ?_
      split
      · exact indifferent_scalarJson _ _ _
      · split
        · exact .throw _
        · exact (indifferent_mapM _ induction).bind fun _ => .pure rfl
      · split
        · exact .throw _
        · refine (indifferent_foldlM _ _ fun es member => ?_).bind fun _ => .pure rfl
          exact (indifferent_readText _).bind fun _ =>
            (induction _).bind fun _ => .pure rfl
      · exact .throw _

instance : IndifferentSource Cursor where
  text := indifferent_readText
  flag v := by
    refine (indifferent_resolved v).bind fun target => ?_
    split
    · split
      · split
        · exact .pure rfl
        · exact .throw _
      · exact .throw _
    · exact .throw _
  present v := by
    refine (indifferent_resolved v).bind fun target => ?_
    split
    · exact .pure rfl
    · dsimp only
      split
      · split
        · exact .pure rfl
        · split
          · split
            · exact .pure rfl
            · exact .throw _
          · exact .pure rfl
      · exact .pure rfl
  items v := by
    refine (indifferent_resolved v).bind fun target => ?_
    split
    · exact .pure (matched_items (.pure rfl))
    · exact alike_enter fun down => .pure (matched_items (.pure rfl))
    · split
      · exact .pure (matched_items (.pure rfl))
      · exact .throw _
    · exact .throw _
  members := alike_readMembers
  fields v := by
    refine (alike_readMembers v).bind fun parts others matched =>
      .pure (.inr ⟨?_, matched.close⟩)
    rw [List.forall₂_map_left_iff, List.forall₂_map_right_iff]
    exact matched.items.imp fun _ _ same => sameMember_map _ same
  choice v := by
    refine (indifferent_resolved v).bind fun target => ?_
    split
    · split
      · refine .pure ⟨rfl, ?_⟩
        dsimp only
        split
        · exact .pure rfl
        · exact .throw _
      · exact .pure ⟨rfl, .pure rfl⟩
    · exact .throw _
  datum v := by
    dsimp only [Source.datum]
    split
    · exact .pure rfl
    · exact indifferent_readDatum _ _ _
  json v := by
    dsimp only [Source.json]
    split
    · exact .pure rfl
    · exact indifferent_readJson _ _ _
  skip v := .pure rfl

end Yaml.Cursor

namespace Reading

section Documents

variable {ν α ρ : Type} [Source ν] [IndifferentSource ν]

attribute [simp] IndifferentSource.text IndifferentSource.flag IndifferentSource.json
  indifferent_optional indifferent_list indifferent_table indifferent_choose

omit [Source ν] [IndifferentSource ν] in
@[simp] theorem indifferent_must {name : String} {read : ν → Read α} {put : ρ → α → ρ}
    (inner : ∀ w, Indifferent (read w)) (v : ν) :
    Indifferent ((Field.must name read put).read v) :=
  (inner v).bind fun _ => .pure rfl

omit [Source ν] [IndifferentSource ν] in
@[simp] theorem indifferent_may {name : String} {read : ν → Read α} {put : ρ → α → ρ}
    (inner : ∀ w, Indifferent (read w)) (v : ν) :
    Indifferent ((Field.may name read put).read v) :=
  (inner v).bind fun _ => .pure rfl

@[simp] theorem indifferent_optionalText (v : ν) : Indifferent (optionalText v) :=
  indifferent_optional IndifferentSource.text v

@[simp] theorem indifferent_texts (v : ν) : Indifferent (texts v) :=
  indifferent_list IndifferentSource.text v

@[simp] theorem indifferent_schemaType (v : ν) : Indifferent (schemaType v) :=
  (IndifferentSource.text v).map _

theorem indifferent_referencePath (d : Datum) : Indifferent (referencePath d) := by
  unfold referencePath
  split
  · apply indifferent_record
    simp
  · exact .throw _

theorem indifferent_additional {σ : Type} {schema : Datum → Read σ}
    (inner : ∀ d, Indifferent (schema d)) (d : Datum) :
    Indifferent (additional schema d) :=
  indifferent_oneOf (fun d => (IndifferentSource.flag d).map _)
    (fun d => (inner d).map _) d

theorem indifferent_schemaWithin (n : Nat) (d : Datum) :
    Indifferent (schemaWithin n d) := by
  induction n generalizing d with
  | zero => exact .throw _
  | succ n induction =>
      refine indifferent_oneOf (fun d => (indifferent_referencePath d).map _)
        (fun d => Indifferent.map ?_ _) d
      apply indifferent_record
      simp [bodyFields, induction, indifferent_additional induction]

@[simp] theorem indifferent_schema (v : ν) : Indifferent (schema v) :=
  (IndifferentSource.datum v).bind fun d => indifferent_schemaWithin _ d

@[simp] theorem indifferent_parameter (v : ν) : Indifferent (parameter v) := by
  apply indifferent_record
  simp [parameterFields]

theorem indifferent_parameterReference (d : Datum) :
    Indifferent (parameterReference d) := by
  unfold parameterReference
  split
  · refine Indifferent.bind ?_ fun _ => .pure rfl
    apply indifferent_record
    simp
  · exact .throw _

@[simp] theorem indifferent_parameterUse (v : ν) : Indifferent (parameterUse v) :=
  indifferent_oneOf indifferent_parameterReference
    (fun d => (indifferent_parameter d).map _) v

@[simp] theorem indifferent_response (v : ν) : Indifferent (response v) := by
  apply indifferent_record
  simp

@[simp] theorem indifferent_responseUse (v : ν) : Indifferent (responseUse v) :=
  indifferent_oneOf (fun d => (indifferent_referencePath d).map _)
    (fun d => (indifferent_response d).map _) v

@[simp] theorem indifferent_externalDocs (v : ν) : Indifferent (externalDocs v) := by
  apply indifferent_record
  simp

@[simp] theorem indifferent_requirements (v : ν) : Indifferent (requirements v) := by
  apply indifferent_list
  simp

@[simp] theorem indifferent_operation (v : ν) : Indifferent (operation v) := by
  apply indifferent_record
  simp

@[simp] theorem indifferent_securityScheme (v : ν) :
    Indifferent (securityScheme v) := by
  apply indifferent_record
  simp

@[simp] theorem indifferent_info (v : ν) : Indifferent (info v) := by
  apply indifferent_record
  simp

@[simp] theorem indifferent_tag (v : ν) : Indifferent (tag v) := by
  apply indifferent_record
  simp

end Documents

end Reading

end ApiBindings
