import ApiBindings.Proofs.Reading.Steady
import ApiBindings.Proofs.Tables
import Mathlib.Data.List.Forall2

/-!
The forms that values can have to have, told without a reader, and which of them
the readers take.
-/

namespace ApiBindings

inductive Json.Distinct : Json → Prop
  | null : Distinct .null
  | bool (b : Bool) : Distinct (.bool b)
  | int (n : Int) : Distinct (.int n)
  | float (x : Float) : Distinct (.float x)
  | string (s : String) : Distinct (.string s)
  | array {items : List Json} (inner : ∀ item ∈ items, Distinct item) :
      Distinct (.array items)
  | object {members : List (String × Json)} (keys : (members.map Prod.fst).Nodup)
      (inner : ∀ m ∈ members, Distinct m.2) : Distinct (.object members)

theorem itemsToDatum_eq_map (items : List Json) :
    itemsToDatum items = items.map Json.toDatum := by
  induction items with
  | nil => rfl
  | cons item items induction => rw [itemsToDatum, induction, List.map_cons]

theorem membersToDatum_eq_map (members : List (String × Json)) :
    membersToDatum members = members.map fun m => (.text m.1, m.2.toDatum) := by
  induction members with
  | nil => rfl
  | cons m members induction => rw [membersToDatum, induction, List.map_cons]

theorem Json.height_item_lt {items : List Json} {item : Json} (listed : item ∈ items) :
    item.toDatum.height < (Json.array items).toDatum.height := by
  rw [Json.toDatum, Datum.height, itemsToDatum_eq_map, Nat.lt_succ_iff]
  induction items with
  | nil => cases listed
  | cons first items induction =>
      rw [List.map_cons, Datum.heightItems]
      rcases List.mem_cons.mp listed with rfl | later
      · exact Nat.le_max_left _ _
      · exact Nat.le_trans (induction later) (Nat.le_max_right _ _)

theorem Json.height_member_lt {members : List (String × Json)} {m : String × Json}
    (listed : m ∈ members) :
    m.2.toDatum.height < (Json.object members).toDatum.height := by
  rw [Json.toDatum, Datum.height, membersToDatum_eq_map, Nat.lt_succ_iff]
  induction members with
  | nil => cases listed
  | cons first members induction =>
      rw [List.map_cons, Datum.heightMembers]
      rcases List.mem_cons.mp listed with rfl | later
      · exact Nat.le_max_left _ _
      · exact Nat.le_trans (induction later) (Nat.le_max_right _ _)

theorem Json.items_below {items : List Json} {n : Nat}
    (inner : ∀ item ∈ items, item.Distinct)
    (low : (Json.array items).toDatum.height < n + 1) :
    ∀ item ∈ items, item.Distinct ∧ item.toDatum.height < n := fun item listed =>
  ⟨inner item listed,
    Nat.lt_of_lt_of_le (height_item_lt listed) (Nat.le_of_lt_succ low)⟩

theorem Json.members_below {members : List (String × Json)} {n : Nat}
    (inner : ∀ m ∈ members, m.2.Distinct)
    (low : (Json.object members).toDatum.height < n + 1) :
    ∀ m ∈ members, m.2.Distinct ∧ m.2.toDatum.height < n := fun m listed =>
  ⟨inner m listed,
    Nat.lt_of_lt_of_le (height_member_lt listed) (Nat.le_of_lt_succ low)⟩

mutual

/-- Every value that is read in full has a free-form value. -/
theorem Json.isSome_toJson? : ∀ j : Json, j.toDatum.toJson?.isSome = true
  | .null => rfl
  | .bool _ => rfl
  | .int _ => rfl
  | .float _ => rfl
  | .string _ => rfl
  | .array items => by
      rw [Json.toDatum, Datum.toJson?, Option.isSome_map]
      exact isSome_itemsToJson? items
  | .object members => by
      rw [Json.toDatum, Datum.toJson?, Option.isSome_map]
      exact isSome_membersToJson? members []

theorem isSome_itemsToJson? :
    ∀ items : List Json, (Datum.itemsToJson? (itemsToDatum items)).isSome = true
  | [] => rfl
  | item :: items => by
      obtain ⟨j, first⟩ := Option.isSome_iff_exists.mp (Json.isSome_toJson? item)
      obtain ⟨js, rest⟩ := Option.isSome_iff_exists.mp (isSome_itemsToJson? items)
      rw [itemsToDatum, Datum.itemsToJson?, first, rest]
      rfl

theorem isSome_membersToJson? : ∀ (members : List (String × Json))
    (before : List (String × Json)),
    (Datum.membersToJson? before (membersToDatum members)).isSome = true
  | [], _ => rfl
  | (key, value) :: members, before => by
      obtain ⟨j, first⟩ := Option.isSome_iff_exists.mp (Json.isSome_toJson? value)
      rw [membersToDatum, Datum.membersToJson?, first]
      exact isSome_membersToJson? members _

end

namespace Reading

inductive Form
  | text
  | flag
  | value
  | optional (form : Form)
  | list (form : Form)
  | table (form : Form)
  | schema
  /-- A flag or a schema. -/
  | additional

/-- The members of a schema that is written out, in their order where they stand
without names. -/
def bodyForms : List (String × Form) :=
  [("type", .optional .text), ("format", .optional .text), ("title", .optional .text),
    ("description", .optional .text), ("default", .optional .value),
    ("properties", .table .schema), ("required", .list .text),
    ("additionalProperties", .optional .additional), ("items", .optional .schema),
    ("allOf", .list .schema), ("enum", .list .value),
    ("discriminator", .optional .text), ("readOnly", .optional .flag),
    ("example", .optional .value)]

inductive Fits : Form → Json → Prop
  | text (s : String) : Fits .text (.string s)
  | flag (b : Bool) : Fits .flag (.bool b)
  | value (j : Json) : Fits .value j
  | absent (form : Form) : Fits (.optional form) .null
  | present {form : Form} {j : Json} (fits : Fits form j) : Fits (.optional form) j
  | list {form : Form} {items : List Json} (fits : ∀ item ∈ items, Fits form item) :
      Fits (.list form) (.array items)
  | table {form : Form} {members : List (String × Json)}
      (fits : ∀ m ∈ members, Fits form m.2) : Fits (.table form) (.object members)
  | permission (b : Bool) : Fits .additional (.bool b)
  | restriction {j : Json} (fits : Fits .schema j) : Fits .additional j
  /-- Beside a reference other members may be anything. -/
  | reference {members : List (String × Json)} {path : String}
      (found : Entries.find? "$ref" members = some (.string path)) :
      Fits .schema (.object members)
  | named {members : List (String × Json)}
      (known : ∀ m ∈ members, ∀ form, Entries.find? m.1 bodyForms = some form →
        Fits form m.2) : Fits .schema (.object members)
  | numbered {items : List Json} (short : items.length ≤ bodyForms.length)
      (fits : ∀ entry ∈ bodyForms.zip items, Fits entry.1.2 entry.2) :
      Fits .schema (.array items)

section Verdicts

variable {α β : Type} {F G : Prop} {H : α → Prop} {K : β → Prop} {r : Read α}

/-- The reading gets through if the value fits, and then gives what is wanted; it
fails if not. -/
def Verdict (F : Prop) (H : α → Prop) (r : Read α) : Prop :=
  (F ∧ ∃ a, H a ∧ r = pure a) ∨ (¬F ∧ ∃ fault, r = throw fault)

theorem Verdict.taken {a : α} (fits : F) (holds : H a) : Verdict F H (pure a) :=
  .inl ⟨fits, a, holds, rfl⟩

theorem Verdict.refused {fault : Fault} (misfits : ¬F) :
    Verdict F H (throw fault : Read α) :=
  .inr ⟨misfits, fault, rfl⟩

theorem Verdict.bind {f : α → Read β} (first : Verdict F H r)
    (rest : ∀ a, F → H a → Verdict G K (f a)) : Verdict (F ∧ G) K (r >>= f) := by
  obtain ⟨fits, a, holds, rfl⟩ | ⟨misfits, fault, rfl⟩ := first
  · rw [pure_bind]
    obtain ⟨fits', b, holds', same⟩ | ⟨misfits, fault, same⟩ := rest a fits holds
    · exact .inl ⟨⟨fits, fits'⟩, b, holds', same⟩
    · exact .inr ⟨fun both => misfits both.2, fault, same⟩
  · exact .refused fun both => misfits both.1

theorem Verdict.map {f : α → β} (first : Verdict F H r)
    (maps : ∀ a, H a → K (f a)) : Verdict F K (f <$> r) := by
  obtain ⟨fits, a, holds, rfl⟩ | ⟨misfits, fault, rfl⟩ := first
  · exact .taken fits (maps a holds)
  · exact .refused misfits

theorem Verdict.imp {L : α → Prop} (verdict : Verdict F H r) (same : F ↔ G)
    (weaker : ∀ a, H a → L a) : Verdict G L r := by
  obtain ⟨fits, a, holds, rfl⟩ | ⟨misfits, fault, rfl⟩ := verdict
  · exact .taken (same.mp fits) (weaker a holds)
  · exact .refused (mt same.mpr misfits)

/-- The second reading is asked if the first one fails. -/
theorem Verdict.orElse {s : Read α} {fault : Fault} {K : α → Prop}
    (first : Verdict F H r) (second : Verdict G K s) :
    Verdict (F ∨ G) (fun a => (F ∧ H a) ∨ (¬F ∧ G ∧ K a))
      (do try r catch _ => try s catch _ => throw fault) := by
  obtain ⟨fits, a, holds, rfl⟩ | ⟨misfits, _, rfl⟩ := first
  · exact .taken (.inl fits) (.inl ⟨fits, holds⟩)
  · obtain ⟨fits, a, holds, rfl⟩ | ⟨misfits', _, rfl⟩ := second
    · exact .taken (.inr fits) (.inr ⟨misfits, fits, holds⟩)
    · exact .refused (not_or.mpr ⟨misfits, misfits'⟩)

theorem Verdict.gets_through (verdict : Verdict F H r) (fits : F) :
    ∃ a, H a ∧ r = pure a := by
  obtain ⟨_, given⟩ | ⟨misfits, _⟩ := verdict
  · exact given
  · exact absurd fits misfits

theorem Verdict.fails (verdict : Verdict F H r) (misfits : ¬F) :
    ∃ fault, r = throw fault := by
  obtain ⟨fits, _⟩ | ⟨_, refused⟩ := verdict
  · exact absurd fits misfits
  · exact refused

theorem Verdict.of_eq_pure {a : α} (verdict : Verdict F H r) (given : r = pure a) :
    F ∧ H a := by
  have gives : Gives r a := given ▸ gives_pure.mpr rfl
  obtain ⟨fits, a', holds, same⟩ | ⟨_, fault, same⟩ := verdict
  · rw [same, gives_pure] at gives
    exact ⟨fits, gives ▸ holds⟩
  · rw [same] at gives
    exact absurd gives (not_gives_throw fault)

end Verdicts

section Readers

variable {α : Type} {n : Nat} {form : Form} {R : Json → α → Prop}
  {read : Datum → Read α}

/-- Of the values below a height the reader takes those that have the form. -/
def Takes (n : Nat) (form : Form) (R : Json → α → Prop) (read : Datum → Read α) : Prop :=
  ∀ j : Json, j.Distinct → j.toDatum.height < n →
    Verdict (Fits form j) (R j) (read j.toDatum)

theorem takes_text : Takes n .text (fun j s => j = .string s) Source.text := by
  intro j _ _
  cases j with
  | string s => exact .taken (.text s) rfl
  | _ => exact .refused nofun

theorem takes_flag : Takes n .flag (fun j b => j = .bool b) Source.flag := by
  intro j _ _
  cases j with
  | bool b => exact .taken (.flag b) rfl
  | _ => exact .refused nofun

theorem takes_json : Takes n .value (fun _ _ => True) Source.json := by
  intro j _ _
  obtain ⟨j', json⟩ := Option.isSome_iff_exists.mp j.isSome_toJson?
  have read : Source.json j.toDatum = pure j' := by
    dsimp only [Source.json]
    rw [json]
  rw [read]
  exact .taken (.value j) trivial

/-- Nothing is read of null and only of null. -/
theorem takes_optional (takes : Takes n form R read) :
    Takes n (.optional form) (fun j o => (j = .null ∧ o = none) ∨
      ∃ a, j ≠ .null ∧ R j a ∧ o = some a) (optional read) := by
  intro j distinct low
  by_cases null : j = .null
  · cases null
    exact .taken (.absent form) (.inl ⟨rfl, rfl⟩)
  · have present : Source.present j.toDatum = pure (some j.toDatum) := by
      cases j with
      | null => exact absurd rfl null
      | _ => rfl
    rw [optional, present, pure_bind]
    dsimp only
    rw [bind_pure_comp]
    have fits : Fits form j ↔ Fits (.optional form) j := by
      refine ⟨.present, fun fits => ?_⟩
      cases fits with
      | absent => exact absurd rfl null
      | present fits => exact fits
    have some := (takes j distinct low).imp fits fun _ => id
    exact some.map fun a holds => .inr ⟨a, null, holds, rfl⟩

theorem verdict_items {items : List Json}
    (each : ∀ item ∈ items, Verdict (Fits form item) (R item) (read item.toDatum)) :
    Verdict (∀ item ∈ items, Fits form item) (List.Forall₂ R items)
      ((items.map Json.toDatum).mapM read) := by
  induction items with
  | nil => exact .taken nofun .nil
  | cons item items induction =>
      obtain ⟨first, rest⟩ := List.forall_mem_cons.mp each
      rw [List.map_cons, List.mapM_cons]
      refine (first.bind fun a _ holds => ?_).imp List.forall_mem_cons.symm fun _ => id
      rw [bind_pure_comp]
      exact (induction rest).map fun as others => .cons holds others

theorem takes_list (takes : Takes n form R read) :
    Takes n (.list form) (fun j as => ∃ items, j = .array items ∧
      List.Forall₂ R items as) (list read) := by
  intro j distinct low
  cases distinct with
  | @array items inner =>
      have each : ∀ item ∈ items,
          Verdict (Fits form item) (R item) (read item.toDatum) := by
        intro item listed
        obtain ⟨distinct, low⟩ := Json.items_below inner (Nat.lt_succ_of_lt low) item listed
        exact takes item distinct low
      have parted : Source.items (Json.array items).toDatum =
          pure ⟨items.map Json.toDatum, pure ()⟩ := by
        rw [Json.toDatum, itemsToDatum_eq_map]
        rfl
      rw [list, parted, pure_bind]
      simp only [pure_bind, bind_pure]
      refine (verdict_items each).imp ⟨.list, fun fits => ?_⟩ fun as related =>
        ⟨items, rfl, related⟩
      cases fits with
      | list fits => exact fits
  | _ => exact .refused nofun

/-- A loop over members with distinct keys takes them one by one. -/
theorem verdict_foldlM {β γ : Type} {step : β → γ → Read β} {g : String × Json → γ}
    (fits : String × Json → Prop) (I : List (String × Json) → β → Prop)
    (done : List (String × Json)) {ms : List (String × Json)} {b : β}
    (distinct : ((done ++ ms).map Prod.fst).Nodup) (start : I done b)
    (steps : ∀ done b, ∀ m ∈ ms, m.1 ∉ done.map Prod.fst → I done b →
      Verdict (fits m) (I (done ++ [m])) (step b (g m))) :
    Verdict (∀ m ∈ ms, fits m) (I (done ++ ms)) ((ms.map g).foldlM step b) := by
  induction ms generalizing done b with
  | nil =>
      rw [List.append_nil]
      exact .taken nofun start
  | cons m ms induction =>
      rw [List.map_cons, List.foldlM_cons]
      have here := steps done b m List.mem_cons_self (fresh_of_nodup distinct) start
      rw [List.append_cons] at distinct ⊢
      refine (here.bind fun b' _ holds => ?_).imp List.forall_mem_cons.symm fun _ => id
      exact induction _ distinct holds fun done b e listed =>
        steps done b e (List.mem_cons_of_mem m listed)

def SameUnder (R : Json → α → Prop) (members : List (String × Json))
    (m : OrderedMap String α) : Prop :=
  ∀ key, Option.Rel R (Entries.find? key members) (m.get? key)

theorem SameUnder.insert {done : List (String × Json)} {m : OrderedMap String α}
    {key : String} {j : Json} {a : α} (same : SameUnder R done m)
    (fresh : key ∉ done.map Prod.fst) (related : R j a) :
    SameUnder R (done ++ [(key, j)]) (m.insert key a) := by
  intro key'
  rw [Entries.find?_concat, OrderedMap.get?_insert]
  by_cases here : key = key'
  · cases here
    rw [Entries.find?_eq_none.mpr fresh, if_pos rfl, if_pos rfl]
    exact .some related
  · rw [if_neg here, if_neg here, Option.or_none]
    exact same key'

theorem takes_table (takes : Takes n form R read) :
    Takes n (.table form) (fun j m => ∃ members, j = .object members ∧
      SameUnder R members m) (table read) := by
  intro j distinct low
  cases distinct with
  | @object members keys inner =>
      have parted : Source.members (Json.object members).toDatum =
          pure ⟨members.map fun m => (pure m.1, m.2.toDatum), pure ()⟩ := by
        rw [Json.toDatum, membersToDatum_eq_map]
        change pure (Parts.mk (List.map _ (List.map _ _)) _) = _
        rw [List.map_map]
        rfl
      rw [table, parted, pure_bind]
      simp only [pure_bind, bind_pure]
      refine (verdict_foldlM (fun m => Fits form m.2) (SameUnder R) [] keys
        (fun _ => .none) fun done b m listed fresh same => ?_).imp
          ⟨.table, fun fits => ?_⟩ fun m same => ⟨members, rfl, same⟩
      · obtain ⟨distinct, low⟩ := Json.members_below inner (Nat.lt_succ_of_lt low) m listed
        rw [pure_bind, bind_pure_comp]
        exact (takes m.2 distinct low).map fun a related => same.insert fresh related
      · cases fits with
        | table fits => exact fits
  | _ => exact .refused nofun

/-- A flag is tried first, so only what is none is read as a schema. -/
theorem takes_additional (takes : Takes n .schema R read) :
    Takes n .additional (fun j a => (∃ b, j = .bool b ∧ a = .flag b) ∨
      ∃ s, (∀ b, j ≠ .bool b) ∧ R j s ∧ a = .values s) (additional read) := by
  intro j distinct low
  have flag : Verdict (Fits .flag j) (fun a => ∃ b, j = .bool b ∧ a = .flag b)
      (.flag <$> Source.flag j.toDatum : Read (Additional α)) :=
    (takes_flag j distinct low).map fun b same => ⟨b, same, rfl⟩
  have values : Verdict (Fits .schema j) (fun a => ∃ s, R j s ∧ a = .values s)
      (Additional.values <$> read j.toDatum) :=
    (takes j distinct low).map fun s holds => ⟨s, holds, rfl⟩
  refine (flag.orElse values).imp ⟨fun fits => ?_, fun fits => ?_⟩ fun a either => ?_
  · rcases fits with flag | fits
    · cases flag with
      | flag b => exact .permission b
    · exact .restriction fits
  · cases fits with
    | permission b => exact .inl (.flag b)
    | restriction fits => exact .inr fits
  · obtain ⟨_, here⟩ | ⟨other, -, s, holds, same⟩ := either
    · exact .inl here
    · exact .inr ⟨s, fun b flag => other (flag ▸ .flag b), holds, same⟩

end Readers

end Reading

end ApiBindings
