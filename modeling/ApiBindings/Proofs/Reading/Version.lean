import ApiBindings.Proofs.Bindings.Completeness
import ApiBindings.Proofs.Reading.Steady

/-!
The version is read twice, first alone and then with all else. Both readings
find the same, so a document that has been read is of the supported version.
-/

namespace ApiBindings

namespace Reading

variable {ν α ρ : Type}

/-! What follows about a record from its having been read. -/
section Records

variable {fields : List (Field ν ρ)} {seen seen' : List String} {r r' : ρ}

def FieldKey.Leads (key : FieldKey) (name : String) : Prop :=
  key = .name name ∨ key = .number 0

theorem find?_of_leads {field : Field ν ρ} {key : FieldKey}
    (leads : key.Leads field.name) : key.find? (field :: fields) = some field := by
  rcases leads with rfl | rfl
  · simp [FieldKey.find?]
  · rfl

theorem mem_of_find? {field other : Field ν ρ} {key : FieldKey}
    (later : ¬key.Leads field.name)
    (found : key.find? (field :: fields) = some other) : other ∈ fields := by
  cases key with
  | name s =>
      have differs : (field.name == s) = false :=
        beq_false_of_ne fun same => later (.inl (congrArg _ same.symm))
      rw [FieldKey.find?, List.find?_cons_of_neg (by simp [differs])] at found
      exact List.mem_of_find?_eq_some found
  | number n =>
      cases n with
      | zero => exact absurd (.inr rfl) later
      | succ n => exact List.mem_of_getElem? found

/-- Reading a member gives nothing but the change that it stands for. -/
theorem gives_put {read : ν → Read α} {put : ρ → α → ρ} {v : ν} {change : ρ → ρ}
    (gives : Gives (do let a ← read v; return fun r => put r a) change) :
    ∃ a, Gives (read v) a ∧ change = fun r => put r a := by
  obtain ⟨a, read, gives⟩ := gives_bind gives
  exact ⟨a, read, (gives_pure.mp gives).symm⟩

/-- Values stand for the first members, as many as there are. -/
theorem gives_numberedFields {values extra : List ν} {missing : List (Field ν ρ)}
    (gives : Gives (numberedFields r fields values) (r', missing, extra)) :
    missing = fields.drop values.length ∧ extra = values.drop fields.length := by
  induction fields generalizing r values with
  | nil =>
      cases gives_pure.mp gives
      exact ⟨List.drop_nil.symm, rfl⟩
  | cons field fields induction =>
      cases values with
      | nil =>
          cases gives_pure.mp gives
          exact ⟨rfl, rfl⟩
      | cons v values =>
          obtain ⟨put, -, gives⟩ := gives_bind gives
          exact induction gives

variable [Source ν]

theorem gives_namedFields_nil
    (gives : Gives (namedFields fields seen r []) (seen', r')) :
    seen' = seen ∧ r' = r := by
  cases gives_pure.mp gives
  exact ⟨rfl, rfl⟩

/-- A member is passed over, or it is read for the first time. -/
theorem gives_namedFields_cons {key : Read FieldKey} {v : ν}
    {rest : List (Read FieldKey × ν)}
    (gives : Gives (namedFields fields seen r ((key, v) :: rest)) (seen', r')) :
    ∃ k, Gives key k ∧
      ((k.find? fields = none ∧
          Gives (namedFields fields seen r rest) (seen', r')) ∨
        ∃ field put, k.find? fields = some field ∧ Gives (field.read v) put ∧
          Gives (namedFields fields (field.name :: seen) (put r) rest)
            (seen', r')) := by
  obtain ⟨k, found, gives⟩ := gives_bind gives
  refine ⟨k, found, ?_⟩
  split at gives
  next none =>
      obtain ⟨_, -, gives⟩ := gives_bind gives
      exact .inl ⟨none, gives⟩
  next field some =>
      split at gives
      next =>
          exact absurd gives (not_gives_throw _)
      next =>
          obtain ⟨put, read, gives⟩ := gives_bind gives
          exact .inr ⟨field, put, some, read, gives⟩

/-- A record is given by names or by numbers, and no member is missing that has
to be there. -/
theorem gives_record {blank : ρ} {v : ν} (gives : Gives (record blank fields v) r) :
    (∃ parts seen, Gives (Source.fields v) (.inr parts) ∧
        Gives (namedFields fields [] blank parts.items) (seen, r) ∧
        ∀ field ∈ fields, field.required → field.name ∈ seen) ∨
      ∃ parts, Gives (Source.fields v) (.inl parts) ∧
        parts.items.length ≤ fields.length ∧
        ∀ field ∈ fields.drop parts.items.length, field.required = false := by
  obtain ⟨found, parted, gives⟩ := gives_bind gives
  cases found with
  | inr parts =>
      obtain ⟨⟨seen, r⟩, named, gives⟩ := gives_bind gives
      obtain ⟨_, -, gives⟩ := gives_bind gives
      split at gives
      next complete =>
          cases gives_pure.mp gives
          refine .inl ⟨parts, seen, parted, named, ?_⟩
          simpa [List.all_eq_true, imp_iff_not_or] using complete
      next => exact absurd gives (not_gives_throw _)
  | inl parts =>
      obtain ⟨⟨r, missing, extra⟩, numbered, gives⟩ := gives_bind gives
      obtain ⟨rfl, rfl⟩ := gives_numberedFields numbered
      dsimp only at gives
      split at gives
      next ended =>
          obtain ⟨_, -, gives⟩ := gives_bind gives
          split at gives
          next => exact absurd gives (not_gives_throw _)
          next optional =>
              refine .inr ⟨parts, parted, ?_, ?_⟩
              · simpa using ended
              · simpa using optional
      next => exact absurd gives (not_gives_throw _)

end Records

/-- A member with another name, which has no part in the version. -/
structure Aside (field : Field ν Document) : Prop where
  name : field.name ≠ "swagger"
  version {v : ν} {change : Document → Document}
    (gives : Gives (field.read v) change) (doc : Document) :
      (change doc).version = doc.version

theorem aside_of_put {name : String} {required : Bool} {read : ν → Read α}
    {put : Document → α → Document} (differs : name ≠ "swagger")
    (kept : ∀ doc a, (put doc a).version = doc.version) :
    Aside ⟨name, required, fun v => do let a ← read v; return fun r => put r a⟩ where
  name := differs
  version gives doc := by
    obtain ⟨a, -, rfl⟩ := gives_put gives
    exact kept doc a

variable [Source ν]

theorem aside_documentFields :
    ∀ field ∈ (documentFields : List (Field ν Document)).tail, Aside field := by
  simp only [documentFields, List.tail_cons, List.forall_mem_cons]
  refine ⟨?_, ?_, ?_, ?_, ?_, ?_, ?_, ?_, ?_, ?_, ?_, ?_, ?_, ?_, nofun⟩ <;>
    exact aside_of_put (by decide) fun _ _ => rfl

def headerField : Field ν (Option Json) :=
  .may "swagger" (optional Source.json) fun _ x => x

def headerFields : List (Field ν (Option Json)) := [headerField]

variable [SteadySource ν]

def SameVersion (header : Option Json) (seen : List String) (doc : Document) : Prop :=
  "swagger" ∈ seen → ∀ s, header = some (.string s) → doc.version = s

theorem sameVersion_of_named {items : List (Read FieldKey × ν)}
    (steady : ∀ item ∈ items, Steady item.1) {header header' : Option Json}
    {few few' seen seen' : List String} {doc doc' : Document}
    (alone : Gives (namedFields headerFields few header items) (few', header'))
    (whole : Gives (namedFields documentFields seen doc items) (seen', doc'))
    (same : SameVersion header seen doc) : SameVersion header' seen' doc' := by
  induction items generalizing header few seen doc with
  | nil =>
      obtain ⟨-, rfl⟩ := gives_namedFields_nil alone
      obtain ⟨rfl, rfl⟩ := gives_namedFields_nil whole
      exact same
  | cons item rest induction =>
      obtain ⟨key, v⟩ := item
      obtain ⟨k, found, alone⟩ := gives_namedFields_cons alone
      obtain ⟨k', found', whole⟩ := gives_namedFields_cons whole
      cases steady _ List.mem_cons_self k k' found found'
      have steady_rest := fun item listed =>
        steady item (List.mem_cons_of_mem _ listed)
      by_cases leads : k.Leads "swagger"
      · -- Both read the version.
        rw [headerFields, find?_of_leads leads] at alone
        rw [documentFields, find?_of_leads leads] at whole
        obtain ⟨⟨⟩, -⟩ | ⟨_, _, ⟨⟩, read, alone⟩ := alone
        obtain ⟨⟨⟩, -⟩ | ⟨_, _, ⟨⟩, read', whole⟩ := whole
        obtain ⟨j, json, rfl⟩ := gives_put read
        obtain ⟨s, text, rfl⟩ := gives_put read'
        refine induction steady_rest alone whole fun _ s' string => ?_
        cases string
        exact SteadySource.text_of_json json text
      · -- The version is passed over, and what is read is no version.
        have alone : Gives (namedFields headerFields few header rest)
            (few', header') := by
          obtain ⟨-, alone⟩ | ⟨_, _, member, -⟩ := alone
          · exact alone
          · exact absurd (mem_of_find? leads member) List.not_mem_nil
        obtain ⟨-, whole⟩ | ⟨field, change, member, read, whole⟩ := whole
        · exact induction steady_rest alone whole same
        · have aside := aside_documentFields field (mem_of_find? leads member)
          refine induction steady_rest alone whole fun listed s string => ?_
          rw [aside.version read]
          have before := (List.mem_cons.mp listed).resolve_left
            (Ne.symm aside.name)
          exact same before s string

/-- A value that is read as a document has the version of its header. -/
theorem version_of_header {v : ν} {s : String} {doc : Document}
    (alone : Gives (versionHeader v) (some (.string s)))
    (whole : Gives (document v) doc) : doc.version = s := by
  rcases gives_record alone with
    ⟨parts, few, parted, alone, -⟩ | ⟨parts, parted, short, -⟩
  · rcases gives_record whole with
      ⟨parts', seen, parted', whole, required⟩ | ⟨parts', parted', -⟩
    · cases SteadySource.fields v _ _ parted parted'
      refine sameVersion_of_named (SteadySource.key parted) alone whole nofun
        (required _ List.mem_cons_self rfl) s rfl
    · cases SteadySource.fields v _ _ parted parted'
  · rcases gives_record whole with
      ⟨parts', seen, parted', -⟩ | ⟨parts', parted', -, required⟩
    · cases SteadySource.fields v _ _ parted parted'
    · cases SteadySource.fields v _ _ parted parted'
      -- A list with no more than the version in it lacks what follows.
      rcases Nat.le_one_iff_eq_zero_or_eq_one.mp short with none | one
      · rw [none] at required
        cases required _ List.mem_cons_self
      · rw [one] at required
        cases required _ List.mem_cons_self

end Reading

open Reading

theorem Json.gives_decode {α : Type} {read : Node → Read α} {text : String} {a : α}
    (ran : (Json.decode read text).run.result = .ok a) :
    Gives (read ⟨(Tree.ofText text.toList).1, Node.depthLimit⟩) a ∧
      (Tree.ofText text.toList).2 = true := by
  obtain ⟨_, gives, alone⟩ := gives_bind (gives_of_run ran)
  split at alone
  next ended =>
      cases gives_pure.mp alone
      exact ⟨gives, ended⟩
  next => exact absurd alone (not_gives_throw _)

theorem Yaml.gives_decode {α : Type} {read : Cursor → Read α} {text : String} {a : α}
    (ran : (Yaml.decode read text).run.result = .ok a) :
    ∃ stream, Stream.ofText? text.toList = some stream ∧
      Gives (read ⟨stream, stream.root, Cursor.depthLimit⟩) a := by
  have gives := gives_of_run ran
  unfold decode at gives
  split at gives
  next => exact absurd gives (not_gives_throw _)
  next stream found => exact ⟨stream, found, gives⟩

theorem Format.version_of_decode {format : Format} {text s : String}
    {doc : Document}
    (alone : (format.decode versionHeader text).result = .ok (some (.string s)))
    (whole : (format.decode document text).result = .ok doc) :
    doc.version = s := by
  unfold Format.decode at alone whole
  rw [Traced.result_mapError, Outcome.mapError_eq_ok] at alone whole
  cases format with
  | json =>
      exact version_of_header (Json.gives_decode alone).1 (Json.gives_decode whole).1
  | yaml =>
      obtain ⟨stream, found, alone⟩ := Yaml.gives_decode alone
      obtain ⟨stream', found', whole⟩ := Yaml.gives_decode whole
      cases found.symm.trans found'
      exact version_of_header alone whole

namespace Document

theorem eq_of_checkHeader {header : Option Json}
    (checked : checkHeader header = .ok ()) :
    header = some (.string supportedVersion) := by
  unfold checkHeader at checked
  split at checked
  next s =>
      split at checked
      next same => rw [same]
      next => cases checked
  next => cases checked
  next => cases checked

theorem version_of_ofText {format : Format} {text : String} {doc : Document}
    (read : (ofText format text).result = .ok doc) :
    doc.version = supportedVersion := by
  unfold ofText at read
  simp only [Traced.result_bind, Outcome.bind_eq_ok] at read
  obtain ⟨header, alone, _, checked, whole⟩ := read
  cases eq_of_checkHeader checked
  exact Format.version_of_decode alone whole

/-- No part of a document is refused for a version. -/
theorem Item.failure?_ne_unsupportedVersion {doc : Document} (item : Item)
    (found : String) : item.failure? doc ≠ some (.unsupportedVersion found) := by
  intro refused
  cases item with
  | parameter path verb use =>
      rw [Item.failure?, Outcome.failure?_eq_some, result_argument] at refused
      cases kept : doc.keptParameter use with
      | error e =>
          rw [kept] at refused
          cases refused
      | ok p =>
          rw [kept] at refused
          cases p with
          | none => cases refused
          | some p =>
              cases typed : (p.typeSchema.toType doc).result <;>
                simp [typed] at refused
  | definition name s =>
      rw [Item.failure?, Outcome.failure?_eq_some, Traced.result_mapError]
        at refused
      cases typed : (doc.definitionType name s).result <;>
        simp [typed] at refused

theorem bindings_not_refused {doc : Document}
    (supported : doc.version = supportedVersion) (options : Options)
    (found : String) :
    (doc.bindings options).result ≠ .error (.unsupportedVersion found) := by
  rw [Ne, ← Outcome.failure?_eq_some, failure?_bindings options supported,
    List.findSome?_eq_some_iff]
  rintro ⟨_, item, _, -, refused, -⟩
  exact item.failure?_ne_unsupportedVersion found refused

end Document

end ApiBindings
