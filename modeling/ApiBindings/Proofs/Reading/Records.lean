import ApiBindings.Proofs.Reading.Forms
import ApiBindings.Proofs.Reading.Refusal

/-!
Records read from values that are in full, field by field, with their members
named or in their order.
-/

namespace ApiBindings

namespace Reading

section Records

variable {ρ : Type} {n : Nat} {I : List (String × Json) → ρ → Prop}
  {fields : List (Field Datum ρ)} {forms : List (String × Form)}

def KnownFit (forms : List (String × Form)) (ms : List (String × Json)) : Prop :=
  ∀ m ∈ ms, ∀ form, Entries.find? m.1 forms = some form → Fits form m.2

/-- The field takes what has its form, and changes a record that is made of some
members into one that is made of one member more. -/
structure FieldTakes (n : Nat) (I : List (String × Json) → ρ → Prop)
    (field : Field Datum ρ) (entry : String × Form) : Prop where
  name : field.name = entry.1
  takes (j : Json) (distinct : j.Distinct) (low : j.toDatum.height < n) :
    Verdict (Fits entry.2 j)
      (fun change => ∀ done r, entry.1 ∉ done.map Prod.fst → I done r →
        I (done ++ [(entry.1, j)]) (change r))
      (field.read j.toDatum)

theorem find?_fields (fit : List.Forall₂ (FieldTakes n I) fields forms)
    (name : String) :
    Option.Rel (fun field form => FieldTakes n I field (name, form))
      ((FieldKey.name name).find? fields) (Entries.find? name forms) := by
  induction fit with
  | nil => exact .none
  | @cons field entry fields forms takes _ induction =>
      rw [FieldKey.find?, List.find?_cons, Entries.find?, takes.name]
      by_cases here : entry.1 = name
      · cases here
        rw [beq_self_eq_true, if_pos rfl]
        exact .some takes
      · rw [beq_false_of_ne here, if_neg here]
        exact induction

theorem known_of_mem {field : Field Datum ρ}
    (fit : List.Forall₂ (FieldTakes n I) fields forms) (listed : field ∈ fields) :
    ∃ form, Entries.find? field.name forms = some form := by
  refine Option.ne_none_iff_exists'.mp fun unknown => ?_
  rw [Entries.find?_eq_none] at unknown
  induction fit with
  | nil => cases listed
  | @cons other entry fields forms takes _ induction =>
      rw [List.map_cons, List.mem_cons, not_or] at unknown
      rcases List.mem_cons.mp listed with rfl | later
      · exact unknown.1 takes.name
      · exact induction later unknown.2

structure Reached (I : List (String × Json) → ρ → Prop)
    (forms : List (String × Form)) (done : List (String × Json))
    (state : List String × ρ) : Prop where
  made : I done state.2
  seen (name : String) (form : Form) (known : Entries.find? name forms = some form) :
    name ∈ state.1 ↔ name ∈ done.map Prod.fst

theorem Reached.other {done : List (String × Json)} {state : List String × ρ}
    {m : String × Json} (reached : Reached I forms done state)
    (unknown : Entries.find? m.1 forms = none) (made : I (done ++ [m]) state.2) :
    Reached I forms (done ++ [m]) state := by
  refine ⟨made, fun name form known => ?_⟩
  rw [reached.seen name form known, List.map_append, List.mem_append]
  refine ⟨.inl, fun listed => listed.resolve_right fun here => ?_⟩
  cases List.mem_singleton.mp here
  cases unknown.symm.trans known

theorem Reached.next {done : List (String × Json)} {seen : List String} {r r' : ρ}
    {m : String × Json} (reached : Reached I forms done (seen, r))
    (made : I (done ++ [m]) r') : Reached I forms (done ++ [m]) (m.1 :: seen, r') := by
  refine ⟨made, fun name form known => ?_⟩
  rw [List.map_append, List.mem_append, ← reached.seen name form known]
  simp [or_comm]

theorem namedFields_known {ν : Type} [Source ν] {fields : List (Field ν ρ)}
    {field : Field ν ρ} {key : FieldKey} {v : ν} {seen : List String} {r : ρ}
    {rest : List (Read FieldKey × ν)} (found : key.find? fields = some field)
    (new : field.name ∉ seen) :
    namedFields fields seen r ((pure key, v) :: rest) =
      field.read v >>= fun change =>
        namedFields fields (field.name :: seen) (change r) rest := by
  rw [namedFields, pure_bind, found]
  exact if_neg new

theorem verdict_namedFields (fit : List.Forall₂ (FieldTakes n I) fields forms)
    (unknown : ∀ done r m, Entries.find? m.1 forms = none → I done r →
      I (done ++ [m]) r)
    (done : List (String × Json)) {ms : List (String × Json)} {seen : List String}
    {r : ρ}
    (inner : ∀ m ∈ ms, m.2.Distinct ∧ m.2.toDatum.height < n)
    (distinct : ((done ++ ms).map Prod.fst).Nodup)
    (reached : Reached I forms done (seen, r)) :
    Verdict (KnownFit forms ms) (Reached I forms (done ++ ms))
      (namedFields fields seen r
        (ms.map fun m => (pure (.name m.1), m.2.toDatum))) := by
  induction ms generalizing done seen r with
  | nil =>
      rw [List.append_nil]
      exact .taken nofun reached
  | cons m ms induction =>
      obtain ⟨⟨distinct_m, low⟩, inner⟩ := List.forall_mem_cons.mp inner
      have fresh := fresh_of_nodup distinct
      rw [List.append_cons] at distinct ⊢
      rw [List.map_cons, KnownFit, List.forall_mem_cons]
      have related := find?_fields fit m.1
      revert related
      generalize found : (FieldKey.name m.1).find? fields = field
      generalize known : Entries.find? m.1 forms = form
      intro related
      cases related with
      | none =>
          rw [namedFields_other found rfl]
          have rest := induction _ inner distinct
            (reached.other known (unknown done r m known reached.made))
          exact rest.imp ⟨fun fits => ⟨nofun, fits⟩, And.right⟩ fun _ => id
      | @some field form takes =>
          -- A known key has not been seen before, for keys are distinct.
          have new : field.name ∉ seen := by
            rw [takes.name, reached.seen m.1 form known]
            exact fresh
          rw [namedFields_known found new, takes.name]
          have both := (takes.takes m.2 distinct_m low).bind fun change _ changes =>
            induction _ inner distinct (reached.next (changes done r fresh reached.made))
          refine both.imp (and_congr_left' ⟨fun fits form' same => ?_, ?_⟩) fun _ => id
          · cases same
            exact fits
          · exact fun fits => fits form rfl

theorem verdict_numberedFields (fit : List.Forall₂ (FieldTakes n I) fields forms)
    (done : List (String × Json)) {items : List Json} {r : ρ}
    (inner : ∀ item ∈ items, item.Distinct ∧ item.toDatum.height < n)
    (distinct : (done.map Prod.fst ++ forms.map Prod.fst).Nodup) (made : I done r) :
    Verdict (∀ entry ∈ forms.zip items, Fits entry.1.2 entry.2)
      (fun out => I (done ++ (forms.zip items).map fun entry => (entry.1.1, entry.2)) out.1)
      (numberedFields r fields (items.map Json.toDatum)) := by
  induction fit generalizing items done r with
  | nil =>
      rw [List.zip_nil_left, List.map_nil, List.append_nil]
      rw [numberedFields.eq_def]
      exact .taken nofun made
  | @cons field entry fields forms takes _ induction =>
      cases items with
      | nil =>
          rw [List.zip_nil_right, List.map_nil, List.append_nil]
          exact .taken nofun made
      | cons item items =>
          obtain ⟨⟨distinct_item, low⟩, inner⟩ := List.forall_mem_cons.mp inner
          have fresh : entry.1 ∉ done.map Prod.fst := fun listed =>
            (List.nodup_append.mp distinct).2.2 _ listed _ List.mem_cons_self rfl
          have later : ((done ++ [(entry.1, item)]).map Prod.fst ++
              forms.map Prod.fst).Nodup := by
            rw [List.map_append, List.append_assoc]
            exact distinct
          rw [List.map_cons, numberedFields, List.zip_cons_cons, List.map_cons,
            List.append_cons, List.forall_mem_cons]
          exact (takes.takes item distinct_item low).bind fun change _ changes =>
            induction _ inner later (changes done r fresh made)

/-- An object is read as a record if its known members have their forms and none
is missing. -/
theorem verdict_record_named (fit : List.Forall₂ (FieldTakes n I) fields forms)
    (unknown : ∀ done r m, Entries.find? m.1 forms = none → I done r →
      I (done ++ [m]) r)
    {ms : List (String × Json)} {blank : ρ} (keys : (ms.map Prod.fst).Nodup)
    (inner : ∀ m ∈ ms, m.2.Distinct ∧ m.2.toDatum.height < n) (start : I [] blank) :
    Verdict (KnownFit forms ms ∧
        ∀ field ∈ fields, field.required = true → field.name ∈ ms.map Prod.fst)
      (I ms) (record blank fields (Json.object ms).toDatum) := by
  have parted : Source.fields (Json.object ms).toDatum =
      pure (.inr ⟨ms.map fun m => (pure (.name m.1), m.2.toDatum), pure ()⟩) := by
    rw [Json.toDatum, membersToDatum_eq_map]
    change pure (Sum.inr (Parts.mk (List.map _ (List.map _ _)) _)) = _
    rw [List.map_map]
    rfl
  have nothing : Reached I forms [] ([], blank) :=
    ⟨start, fun _ _ _ => Iff.rfl⟩
  rw [record, parted, pure_bind]
  dsimp only
  refine (verdict_namedFields fit unknown [] inner keys nothing).bind fun state _ reached => ?_
  have complete : (fields.all fun field =>
        !field.required || state.1.contains field.name) = true ↔
      ∀ field ∈ fields, field.required = true → field.name ∈ ms.map Prod.fst := by
    rw [List.all_eq_true]
    refine forall₂_congr fun field listed => ?_
    obtain ⟨form, known⟩ := known_of_mem fit listed
    rw [← List.nil_append ms, ← reached.seen field.name form known]
    simp [imp_iff_not_or]
  rw [pure_bind]
  split
  next all => exact .taken (complete.mp all) reached.made
  next missing => exact .refused (mt complete.mpr missing)

theorem verdict_record_numbered (fit : List.Forall₂ (FieldTakes n I) fields forms)
    (optional : ∀ field ∈ fields, field.required = false)
    (distinct : (forms.map Prod.fst).Nodup) {items : List Json} {blank : ρ}
    (inner : ∀ item ∈ items, item.Distinct ∧ item.toDatum.height < n)
    (start : I [] blank) :
    Verdict (items.length ≤ forms.length ∧
        ∀ entry ∈ forms.zip items, Fits entry.1.2 entry.2)
      (I ((forms.zip items).map fun entry => (entry.1.1, entry.2)))
      (record blank fields (Json.array items).toDatum) := by
  have parted : Source.fields (Json.array items).toDatum =
      pure (.inl ⟨items.map Json.toDatum, pure ()⟩) := by
    rw [Json.toDatum, itemsToDatum_eq_map]
    rfl
  rw [record, parted, pure_bind]
  dsimp only
  have numbered := verdict_numberedFields (r := blank) fit [] inner distinct start
  obtain ⟨fits, out, made, same⟩ | ⟨misfits, fault, same⟩ := numbered
  · obtain ⟨missing, extra⟩ := gives_numberedFields
      (show Gives _ (out.1, out.2.1, out.2.2) from same ▸ gives_pure.mpr rfl)
    rw [same, pure_bind, extra]
    simp only [pure_bind]
    -- Nothing that is left without a value is asked for.
    have all_optional : out.2.1.any (·.required) = false := by
      rw [missing, List.any_eq_false]
      intro field listed
      rw [optional field (List.mem_of_mem_drop listed)]
      exact Bool.false_ne_true
    rw [all_optional]
    split
    next ended =>
        have short : items.length ≤ forms.length := by
          rw [← fit.length_eq]
          simpa using ended
        exact .taken ⟨short, fits⟩ made
    next more =>
        refine .refused fun both => more ?_
        rw [← fit.length_eq] at both
        simpa using both.1
  · rw [same]
    exact .refused fun both => misfits both.2

end Records

end Reading

end ApiBindings
