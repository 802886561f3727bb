import ApiBindings.Proofs.Reading.Version

/-!
A document of another version is refused as such, whatever else it holds. The
header passes over all other members, and a text that is one JSON value lets it
do so.
-/

namespace ApiBindings

open Reading

section Records

variable {ν α ρ : Type} [Source ν] {v w : ν} {fields : List (Field ν ρ)}
  {seen : List String} {r : ρ} {key : FieldKey} {rest : List (Read FieldKey × ν)}

theorem Reading.namedFields_other (other : key.find? fields = none)
    (skipped : Source.skip v = pure ()) :
    namedFields fields seen r ((pure key, v) :: rest) =
      namedFields fields seen r rest := by
  rw [namedFields, pure_bind, other]
  dsimp only
  rw [skipped, pure_bind]

theorem Reading.namedFields_first {field : Field ν ρ} {change : ρ → ρ}
    (found : key.find? fields = some field) (new : field.name ∉ seen)
    (read : field.read v = pure change) :
    namedFields fields seen r ((pure key, v) :: rest) =
      namedFields fields (field.name :: seen) (change r) rest := by
  rw [namedFields, pure_bind, found]
  dsimp only
  rw [if_neg new, read, pure_bind]

theorem Reading.optional_of_present {read : ν → Read α} {a : α}
    (present : Source.present v = pure (some w)) (given : read w = pure a) :
    Reading.optional read v = pure (some a) := by
  rw [Reading.optional, present, pure_bind]
  dsimp only
  rw [given, pure_bind]

theorem Reading.record_of_named {blank : ρ} {parts : Parts (Read FieldKey × ν)}
    (parted : Source.fields v = pure (.inr parts))
    (named : namedFields fields [] blank parts.items = pure (seen, r))
    (ended : parts.close = pure ())
    (complete : ∀ field ∈ fields, field.required → field.name ∈ seen) :
    record blank fields v = pure r := by
  rw [record, parted, pure_bind]
  dsimp only
  rw [named, pure_bind, ended, pure_bind]
  refine if_pos (List.all_eq_true.mpr fun field listed => ?_)
  simpa [imp_iff_not_or] using complete field listed

variable {few : List String} {header told : Option Json}

/-- The header takes the version where it stands first. -/
theorem Reading.namedFields_version (new : "swagger" ∉ few)
    (read : Reading.optional Source.json v = pure told) :
    namedFields headerFields few header ((pure (.name "swagger"), v) :: rest) =
      namedFields headerFields ("swagger" :: few) told rest := by
  have change : headerField.read v = pure fun _ => told := by
    change (Reading.optional Source.json v >>= fun a => pure fun _ => a) = _
    rw [read, pure_bind]
  exact namedFields_first (find?_of_leads (.inl rfl)) new change

/-- It passes over all members with other names. -/
theorem Reading.namedFields_aside {name : String} (other : name ≠ "swagger")
    (skipped : Source.skip v = pure ()) :
    namedFields headerFields few header ((pure (.name name), v) :: rest) =
      namedFields headerFields few header rest := by
  refine namedFields_other ?_ skipped
  refine Option.eq_none_iff_forall_not_mem.mpr fun field found => ?_
  refine List.not_mem_nil (mem_of_find? ?_ found)
  rintro (⟨⟨⟩⟩ | ⟨⟨⟩⟩)
  exact other rfl

end Records

namespace Json

def Tree.memberNames : Tree → List String
  | .object members _ => members.filterMap Prod.fst
  | _ => []

namespace Node

theorem close_of_gives {closed : Bool} (gives : Gives (close closed) ()) :
    closed = true := by
  unfold close at gives
  split at gives
  next ended => exact ended
  next => exact absurd gives (not_gives_throw _)

theorem name_of_readKey {key : Option String} {k : String}
    (gives : Gives (readKey key) k) : key = some k := by
  cases key with
  | none => exact absurd gives (not_gives_throw _)
  | some k' => rw [gives_pure.mp gives]

theorem gives_readDatumMembers_cons {depth : Nat} {key : Option String} {t : Tree}
    {members : List (Option String × Tree)} {table : List (Datum × Datum)}
    (gives : Gives (readDatumMembers depth ((key, t) :: members)) table) :
    ∃ k d rest, key = some k ∧ Gives (readDatum depth t) d ∧
      Gives (readDatumMembers depth members) rest ∧
      table = (.text k, d) :: rest := by
  obtain ⟨k, named, gives⟩ := gives_bind gives
  obtain ⟨d, read, gives⟩ := gives_bind gives
  obtain ⟨rest, others, gives⟩ := gives_bind gives
  exact ⟨k, d, rest, name_of_readKey named, read, others,
    (gives_pure.mp gives).symm⟩

mutual
/-- What can be read in full is read without fail. -/
theorem whole_of_readDatum {depth : Nat} {d : Datum} :
    ∀ t : Tree, Gives (readDatum depth t) d →
      readDatum depth t = pure d ∧ t.intact = true
  | .broken, gives => absurd gives (not_gives_throw _)
  | .null, gives => by
      cases gives_pure.mp gives
      exact ⟨rfl, rfl⟩
  | .bool _, gives => by
      cases gives_pure.mp gives
      exact ⟨rfl, rfl⟩
  | .number n, gives => by
      rw [readDatum] at gives ⊢
      split at gives
      next value =>
          cases gives_pure.mp gives
          exact ⟨rfl, rfl⟩
      next => exact absurd gives (not_gives_throw _)
  | .text none, gives => absurd gives (not_gives_throw _)
  | .text (some _), gives => by
      cases gives_pure.mp gives
      exact ⟨rfl, rfl⟩
  | .array items closed, gives => by
      cases depth with
      | zero => exact absurd gives (not_gives_throw _)
      | succ depth =>
          obtain ⟨ds, read, gives⟩ := gives_bind gives
          obtain ⟨_, ended, gives⟩ := gives_bind gives
          cases gives_pure.mp gives
          cases close_of_gives ended
          have ⟨same, intact⟩ := whole_of_readDatumItems items read
          rw [readDatum, same, Tree.intact, intact]
          exact ⟨rfl, rfl⟩
  | .object members closed, gives => by
      cases depth with
      | zero => exact absurd gives (not_gives_throw _)
      | succ depth =>
          obtain ⟨table, read, gives⟩ := gives_bind gives
          obtain ⟨_, ended, gives⟩ := gives_bind gives
          cases gives_pure.mp gives
          cases close_of_gives ended
          have ⟨same, intact⟩ := whole_of_readDatumMembers members read
          rw [readDatum, same, Tree.intact, intact]
          exact ⟨rfl, rfl⟩

theorem whole_of_readDatumItems {depth : Nat} {ds : List Datum} :
    ∀ items : List Tree, Gives (readDatumItems depth items) ds →
      readDatumItems depth items = pure ds ∧ Tree.intactItems items = true
  | [], gives => by
      cases gives_pure.mp gives
      exact ⟨rfl, rfl⟩
  | t :: items, gives => by
      obtain ⟨d, read, gives⟩ := gives_bind gives
      obtain ⟨rest, others, gives⟩ := gives_bind gives
      cases gives_pure.mp gives
      have ⟨first, intact⟩ := whole_of_readDatum t read
      have ⟨last, rest_intact⟩ := whole_of_readDatumItems items others
      rw [readDatumItems, first, last, Tree.intactItems, intact, rest_intact]
      exact ⟨rfl, rfl⟩

theorem whole_of_readDatumMembers {depth : Nat} {table : List (Datum × Datum)} :
    ∀ members : List (Option String × Tree),
      Gives (readDatumMembers depth members) table →
        readDatumMembers depth members = pure table ∧
          Tree.intactMembers members = true
  | [], gives => by
      cases gives_pure.mp gives
      exact ⟨rfl, rfl⟩
  | (key, t) :: members, gives => by
      obtain ⟨k, d, rest, rfl, read, others, rfl⟩ :=
        gives_readDatumMembers_cons gives
      have ⟨first, intact⟩ := whole_of_readDatum t read
      have ⟨last, rest_intact⟩ := whole_of_readDatumMembers members others
      rw [readDatumMembers, first, last, Tree.intactMembers, intact, rest_intact]
      exact ⟨rfl, rfl⟩
end

end Node

/-- What the header says of the version, next to what the whole says of it. -/
structure Tells (header found : Option Json) : Prop where
  text (s : String) : header = some (.string s) ↔ found = some (.string s)
  missing : found = none → header = none

theorem tells_refl (found : Option Json) : Tells found found :=
  ⟨fun _ => Iff.rfl, id⟩

namespace Node

theorem tells_of_readDatum {depth : Nat} {t : Tree} {d : Datum} {j : Json}
    (gives : Gives (readDatum depth t) d) (json : d.toJson? = some j) :
    ∃ header, optional Source.json (⟨t, depth⟩ : Node) = pure header ∧
      Tells header (some j) := by
  have ⟨same, _⟩ := whole_of_readDatum t gives
  have read : Source.json (⟨t, depth⟩ : Node) = pure j := by
    change readJson ⟨t, depth⟩ = pure j
    rw [readJson, same, pure_bind, json]
  cases t with
  | null =>
      cases gives_pure.mp gives
      cases json
      exact ⟨none, rfl, fun s => by simp, nofun⟩
  | _ =>
      exact ⟨some j, optional_of_present rfl read, tells_refl _⟩

/-- Member by member the header is told what the entries say of the version. -/
theorem tells_of_members {depth : Nat} {members : List (Option String × Tree)}
    {table : List (Datum × Datum)} {before entries : List (String × Json)}
    {few : List String} {header : Option Json}
    (gives : Gives (readDatumMembers depth members) table)
    (json : Datum.membersToJson? before table = some entries)
    (once : (members.filterMap Prod.fst).count "swagger" ≤ 1)
    (fresh : "swagger" ∈ few → "swagger" ∉ members.filterMap Prod.fst)
    (tells : Tells header (Entries.find? "swagger" before)) :
    ∃ few' header',
      namedFields headerFields few header (members.map fun (key, t) =>
        (.name <$> readKey key, (⟨t, depth⟩ : Node))) = pure (few', header') ∧
      Tells header' (Entries.find? "swagger" entries) := by
  induction members generalizing table before few header with
  | nil =>
      cases gives_pure.mp gives
      cases json
      exact ⟨few, header, rfl, tells⟩
  | cons member members induction =>
      obtain ⟨key, t⟩ := member
      obtain ⟨k, d, rest, rfl, read, others, rfl⟩ :=
        gives_readDatumMembers_cons gives
      obtain ⟨value, valued, json⟩ := Option.bind_eq_some_iff.mp json
      have names : ((some k, t) :: members).filterMap Prod.fst =
          k :: members.filterMap Prod.fst := rfl
      rw [names] at once fresh
      have read_key : FieldKey.name <$> readKey (some k) = pure (.name k) :=
        map_pure _ _
      rw [List.map_cons]
      dsimp only
      rw [read_key]
      by_cases same : k = "swagger"
      · subst same
        obtain ⟨told, header_read, tells⟩ := tells_of_readDatum read valued
        have new : "swagger" ∉ few := fun seen => fresh seen List.mem_cons_self
        rw [namedFields_version new header_read]
        refine induction others json ?_ ?_ ?_
        · exact Nat.le_trans List.count_le_count_cons once
        · rw [List.count_cons_self] at once
          exact fun _ => List.count_eq_zero.mp
            (Nat.le_zero.mp (Nat.le_of_succ_le_succ once))
        · rw [Entries.find?_put, if_pos rfl]
          exact tells
      · have ⟨_, intact⟩ := whole_of_readDatum t read
        have skipped : Source.skip (⟨t, depth⟩ : Node) = pure () := if_pos intact
        rw [namedFields_aside same skipped]
        refine induction others json ?_ ?_ ?_
        · rwa [List.count_cons_of_ne same] at once
        · exact fun seen listed => fresh seen (List.mem_cons_of_mem _ listed)
        · rwa [Entries.find?_put, if_neg same]

end Node

theorem not_object_of_value? {n : Numeral} {members : List (Datum × Datum)}
    {j : Json} (value : n.value? = some j) : j.toDatum ≠ .table members := by
  unfold Numeral.value? at value
  dsimp only at value
  split at value
  next =>
      split_ifs at value
      · cases value
        nofun
      · obtain ⟨x, -, rfl⟩ := Option.map_eq_some_iff.mp value
        nofun
      · obtain ⟨x, -, rfl⟩ := Option.map_eq_some_iff.mp value
        nofun
  next =>
      split_ifs at value
      · obtain ⟨x, -, rfl⟩ := Option.map_eq_some_iff.mp value
        nofun
      · cases value
        nofun
      · obtain ⟨x, -, rfl⟩ := Option.map_eq_some_iff.mp value
        nofun
      · cases value
        nofun

theorem table_of_toJson? {d : Datum} {entries : List (String × Json)}
    (json : d.toJson? = some (.object entries)) :
    ∃ table, d = .table table ∧ Datum.membersToJson? [] table = some entries := by
  cases d with
  | table members =>
      obtain ⟨_, json, same⟩ := Option.map_eq_some_iff.mp json
      cases same
      exact ⟨members, rfl, json⟩
  | float x =>
      rw [Datum.toJson?, Option.some.injEq] at json
      split at json <;> cases json
  | list items =>
      obtain ⟨_, -, other⟩ := Option.map_eq_some_iff.mp json
      cases other
  | null => cases json
  | bool => cases json
  | int => cases json
  | text => cases json

namespace Node

theorem object_of_readDatum {depth : Nat} {t : Tree} {table : List (Datum × Datum)}
    (gives : Gives (readDatum depth t) (.table table)) :
    ∃ members inner, t = .object members true ∧ depth = inner + 1 ∧
      Gives (readDatumMembers inner members) table := by
  cases t with
  | object members closed =>
      cases depth with
      | zero => exact absurd gives (not_gives_throw _)
      | succ depth =>
          obtain ⟨table, read, gives⟩ := gives_bind gives
          obtain ⟨_, ended, gives⟩ := gives_bind gives
          cases gives_pure.mp gives
          cases close_of_gives ended
          exact ⟨members, depth, rfl, rfl, read⟩
  | array items closed =>
      cases depth with
      | zero => exact absurd gives (not_gives_throw _)
      | succ depth =>
          obtain ⟨_, -, gives⟩ := gives_bind gives
          obtain ⟨_, -, gives⟩ := gives_bind gives
          cases gives_pure.mp gives
  | number n =>
      rw [readDatum] at gives
      split at gives
      next value => exact absurd (gives_pure.mp gives) (not_object_of_value? value)
      next => exact absurd gives (not_gives_throw _)
  | text s =>
      cases s with
      | none => exact absurd gives (not_gives_throw _)
      | some s => cases gives_pure.mp gives
  | broken => exact absurd gives (not_gives_throw _)
  | null => cases gives_pure.mp gives
  | bool => cases gives_pure.mp gives

end Node

theorem Node.header_of_object {depth : Nat} {members : List (Option String × Tree)}
    {table : List (Datum × Datum)} {entries : List (String × Json)}
    (gives : Gives (readDatumMembers depth members) table)
    (json : Datum.membersToJson? [] table = some entries)
    (once : (members.filterMap Prod.fst).count "swagger" ≤ 1) :
    ∃ header,
      versionHeader (⟨.object members true, depth + 1⟩ : Node) = pure header ∧
      Tells header (Entries.find? "swagger" entries) := by
  obtain ⟨few, header, named, tells⟩ := tells_of_members gives json once
    (fun seen : "swagger" ∈ [] => absurd seen List.not_mem_nil) (tells_refl none)
  refine ⟨header, ?_, tells⟩
  have parted : Source.fields (⟨.object members true, depth + 1⟩ : Node) =
      pure (.inr ⟨members.map fun (key, t) => (.name <$> readKey key, ⟨t, depth⟩),
        close true⟩) := by
    change Node.readFields _ = _
    simp [Node.readFields, Node.readMembers, Node.enter, List.map_map,
      Function.comp_def]
  refine record_of_named parted named rfl fun field listed required => ?_
  cases List.mem_singleton.mp listed
  cases required

theorem decode_of_eq_pure {α : Type} {read : Node → Read α} {text : String} {a : α}
    (ended : (Tree.ofText text.toList).2 = true)
    (given : read ⟨(Tree.ofText text.toList).1, Node.depthLimit⟩ = pure a) :
    decode read text = pure a := by
  unfold decode
  dsimp only
  rw [given, pure_bind]
  exact if_pos ended

theorem result_of_ofText? {text : String} {j : Json}
    (whole : Json.ofText? text = some j) :
    (decode Source.json text).run.result = .ok j := by
  unfold Json.ofText? at whole
  cases ran : (decode Source.json text).run.result with
  | error e =>
      rw [ran] at whole
      cases whole
  | ok j' =>
      rw [ran] at whole
      cases whole
      rfl

theorem header_of_text {text : String} {members : List (String × Json)}
    (whole : Json.ofText? text = some (.object members))
    (once : (Tree.ofText text.toList).1.memberNames.count "swagger" ≤ 1) :
    ∃ header, (Format.json.decode versionHeader text).result = .ok header ∧
      Tells header (Entries.find? "swagger" members) := by
  obtain ⟨gives, ended⟩ := gives_decode (result_of_ofText? whole)
  obtain ⟨d, read, gives⟩ := gives_bind (r := Node.readDatum _ _) gives
  split at gives
  next j json =>
      cases gives_pure.mp gives
      obtain ⟨table, rfl, entered⟩ := table_of_toJson? json
      obtain ⟨trees, depth, object, deep, read⟩ := Node.object_of_readDatum read
      dsimp only at object deep
      rw [object] at once
      obtain ⟨header, same, tells⟩ := Node.header_of_object read entered once
      rw [← object, ← deep] at same
      refine ⟨header, ?_, tells⟩
      rw [Format.decode, Traced.result_mapError, decode_of_eq_pure ended same]
      rfl
  next => exact absurd gives (not_gives_throw _)

end Json

namespace Document

theorem refused_of_tells {header found : Option Json} (tells : Json.Tells header found)
    (other : found ≠ some (.string supportedVersion)) :
    ∃ version, checkHeader header = .error (.unsupportedVersion version) ∧
      (found = none → version = "<missing>") ∧
      ∀ s, found = some (.string s) → version = s := by
  cases header with
  | none =>
      refine ⟨_, rfl, fun _ => rfl, fun s string => ?_⟩
      cases (tells.text s).mpr string
  | some j =>
      have given : found ≠ none := fun none => nomatch tells.missing none
      cases j with
      | string version =>
          have same := (tells.text version).mp rfl
          have refused : version ≠ supportedVersion := by
            rintro rfl
            exact other same
          refine ⟨version, if_neg refused, fun none => absurd none given,
            fun s string => ?_⟩
          cases same.symm.trans string
          rfl
      | _ =>
          refine ⟨_, rfl, fun none => absurd none given, fun s string => ?_⟩
          cases (tells.text s).mpr string

/-- A document that was read is of the supported version and is not refused for
it again. A text that is one JSON object without a version, or with one that is
another, is refused for the version, whatever else is in the object. -/
theorem readings_agree_on_version :
    (∀ format text doc, (ofText format text).result = .ok doc →
        doc.version = supportedVersion ∧
        ∀ options found,
          (doc.bindings options).result ≠ .error (.unsupportedVersion found)) ∧
      ∀ text members, Json.ofText? text = some (.object members) →
        (Json.Tree.ofText text.toList).1.memberNames.count "swagger" ≤ 1 →
        Entries.find? "swagger" members ≠ some (.string supportedVersion) →
        ∃ found, (ofText .json text).result = .error (.unsupportedVersion found) ∧
          (Entries.find? "swagger" members = none → found = "<missing>") ∧
          ∀ s, Entries.find? "swagger" members = some (.string s) → found = s := by
  refine ⟨fun format text doc read => ?_, fun text members whole once other => ?_⟩
  · have supported := version_of_ofText read
    exact ⟨supported, bindings_not_refused supported⟩
  · obtain ⟨header, read, tells⟩ := Json.header_of_text whole once
    obtain ⟨found, refused, missing, text⟩ := refused_of_tells tells other
    refine ⟨found, ?_, missing, text⟩
    unfold ofText
    rw [Traced.result_bind, read, Outcome.ok_bind, Traced.result_bind,
      Traced.result_ofExcept, refused]
    rfl

def blankText (version : String) : String :=
  "swagger: '" ++ version ++ "'\ninfo: \x7btitle: Blank, version: '1'\x7d\n"

def futureText : String := "\x7b\"swagger\": \"3.0\", \"paths\": 5\x7d"

theorem members_futureText :
    ∃ members, Json.ofText? futureText = some (.object members) ∧
      Entries.find? "swagger" members = some (.string "3.0") := by
  have read : ((Json.ofText? futureText).bind fun
      | .object members => (Entries.find? "swagger" members).bind Json.asString?
      | _ => none) = some "3.0" := by
    decide +kernel
  obtain ⟨j, whole, found⟩ := Option.bind_eq_some_iff.mp read
  split at found
  next members =>
      obtain ⟨version, found, text⟩ := Option.bind_eq_some_iff.mp found
      refine ⟨members, whole, found.trans ?_⟩
      cases version with
      | string s =>
          cases text
          rfl
      | _ => cases text
  next => cases found

theorem versions_of_blank_and_future :
    (∃ doc, (ofText .yaml (blankText "2.0")).result = .ok doc ∧
        doc.version = "2.0" ∧
        (doc.bindings {}).result ≠ .error (.unsupportedVersion "2.0")) ∧
      (ofText .json futureText).result = .error (.unsupportedVersion "3.0") := by
  constructor
  · have accepted : (ofText .yaml (blankText "2.0")).result.isOk = true := by
      decide +kernel
    cases read : (ofText .yaml (blankText "2.0")).result with
    | error e =>
        rw [read] at accepted
        cases accepted
    | ok doc =>
        have ⟨version, assembled⟩ := readings_agree_on_version.1 _ _ _ read
        exact ⟨doc, rfl, version, assembled {} "2.0"⟩
  · obtain ⟨members, whole, version⟩ := members_futureText
    have other : Entries.find? "swagger" members ≠
        some (.string supportedVersion) := by
      rw [version]
      simp [supportedVersion]
    obtain ⟨found, refused, -, same⟩ := readings_agree_on_version.2 _ _ whole
      (by decide +kernel) other
    rw [refused, same "3.0" version]

end Document

end ApiBindings
