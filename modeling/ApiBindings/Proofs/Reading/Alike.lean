import ApiBindings.Document.Reader
import Mathlib.Data.List.Forall2

/-!
Two readings side by side. What a reading does may depend on how many references
have been followed, but never on what has been noted, so runs that differ in
their notes only stay alike.
-/

namespace ApiBindings

namespace Reading

variable {α β γ δ : Type}

/-- Two runs end in the same way and with the same count of references. -/
inductive Matching (R : α → β → Prop) :
    Except Fault α × Progress → Except Fault β × Progress → Prop
  | ok {a : α} {b : β} {p q : Progress} (related : R a b)
      (count : p.followed = q.followed) : Matching R (.ok a, p) (.ok b, q)
  | error {fault : Fault} {p q : Progress} (count : p.followed = q.followed) :
      Matching R (.error fault, p) (.error fault, q)

theorem Matching.imp {R T : α → β → Prop} {x : Except Fault α × Progress}
    {y : Except Fault β × Progress} (matching : Matching R x y)
    (weaker : ∀ a b, R a b → T a b) : Matching T x y := by
  cases matching with
  | ok related count => exact .ok (weaker _ _ related) count
  | error count => exact .error count

theorem Matching.exists_ok {R : α → β → Prop} {x : Except Fault α × Progress}
    {b : β} {q : Progress} (matching : Matching R x (.ok b, q)) :
    ∃ a p, x = (.ok a, p) ∧ R a b := by
  cases matching with
  | @ok a _ p _ related _ => exact ⟨a, p, rfl, related⟩

/-- Started with the same count of references, whatever has been noted before,
the readings fail alike or give values that `R` relates. -/
def Alike (R : α → β → Prop) (r : Read α) (s : Read β) : Prop :=
  ∀ p q : Progress, p.followed = q.followed →
    Matching R (StateT.run (ExceptT.run r) p) (StateT.run (ExceptT.run s) q)

abbrev Indifferent (r : Read α) : Prop := Alike Eq r r

section Parts

variable {R : α → β → Prop} {S : γ → δ → Prop} {r : Read α} {s : Read β}
  {f : α → Read γ} {g : β → Read δ}

theorem Alike.pure {a : α} {b : β} (related : R a b) :
    Alike R (pure a) (pure b) := fun _ _ same => .ok related same

theorem Alike.throw (fault : Fault) :
    Alike R (throw fault) (throw fault) := fun _ _ same => .error same

theorem Alike.bind (first : Alike R r s) (rest : ∀ a b, R a b → Alike S (f a) (g b)) :
    Alike S (r >>= f) (s >>= g) := by
  intro p q same
  have ended := first p q same
  rw [ExceptT.run_bind, StateT.run_bind, ExceptT.run_bind, StateT.run_bind]
  revert ended
  generalize StateT.run (ExceptT.run r) p = left
  generalize StateT.run (ExceptT.run s) q = right
  intro ended
  cases ended with
  | ok related count => exact rest _ _ related _ _ count
  | error count => exact .error count

theorem Alike.map {f : α → γ} {g : β → δ} (first : Alike R r s)
    (maps : ∀ a b, R a b → S (f a) (g b)) : Alike S (f <$> r) (g <$> s) := by
  rw [← bind_pure_comp, ← bind_pure_comp]
  exact first.bind fun a b related => .pure (maps a b related)

theorem Alike.tryCatch {r' : Fault → Read α} {s' : Fault → Read β}
    (first : Alike R r s) (rest : ∀ fault, Alike R (r' fault) (s' fault)) :
    Alike R (tryCatch r r') (tryCatch s s') := by
  intro p q same
  have ended := first p q same
  rw [ExceptT.run_tryCatch, StateT.run_bind, ExceptT.run_tryCatch, StateT.run_bind]
  revert ended
  generalize StateT.run (ExceptT.run r) p = left
  generalize StateT.run (ExceptT.run s) q = right
  intro ended
  cases ended with
  | ok related count => exact .ok related count
  | error count => exact rest _ _ _ count

theorem Alike.imp {T : α → β → Prop} (alike : Alike R r s)
    (weaker : ∀ a b, R a b → T a b) : Alike T r s :=
  fun p q same => (alike p q same).imp weaker

/-- A note changes nothing but the log. -/
theorem Alike.noted (alike : Alike R r s) (level : Level) (message : String) :
    Alike R (do note level message; r) s :=
  fun _ q same => alike _ q same

end Parts

theorem Indifferent.bind {S : β → γ → Prop} {r : Read α} {f : α → Read β}
    {g : α → Read γ} (first : Indifferent r) (rest : ∀ a, Alike S (f a) (g a)) :
    Alike S (r >>= f) (r >>= g) := by
  apply Alike.bind first
  intro a b same
  cases same
  exact rest a

theorem indifferent_note (level : Level) (message : String) :
    Indifferent (note level message) := fun _ _ same => .ok rfl same

theorem Indifferent.map {r : Read α} (first : Indifferent r) (f : α → β) :
    Indifferent (f <$> r) := by
  apply Alike.map first
  intro a b same
  rw [same]

section Loops

theorem indifferent_mapM {f : α → Read β} (as : List α)
    (steps : ∀ a, Indifferent (f a)) : Indifferent (as.mapM f) := by
  induction as with
  | nil => exact .pure rfl
  | cons a as induction =>
      rw [List.mapM_cons]
      exact (steps a).bind fun b => induction.bind fun bs => .pure rfl

/-- What holds between two states after each step holds after the whole loops. -/
theorem Alike.foldlM {R : α → β → Prop} {T : γ → δ → Prop} {f : γ → α → Read γ}
    {g : δ → β → Read δ} {as : List α} {bs : List β} {c : γ} {d : δ}
    (steps : ∀ c d a b, T c d → R a b → Alike T (f c a) (g d b))
    (related : List.Forall₂ R as bs) (start : T c d) :
    Alike T (as.foldlM f c) (bs.foldlM g d) := by
  induction related generalizing c d with
  | nil => exact .pure start
  | cons head _ induction =>
      rw [List.foldlM_cons, List.foldlM_cons]
      exact (steps _ _ _ _ start head).bind fun c d next => induction next

theorem Alike.foldlM_filterMapM_from {T : γ → List δ → Prop} {f : γ → α → Read γ}
    {g : α → Read (Option δ)} {as : List α} {c : γ} {before : List δ}
    (start : T c before)
    (steps : ∀ c ds, ∀ a ∈ as, T c ds →
      Alike (fun c o => T c (ds ++ o.toList)) (f c a) (g a)) :
    Alike (fun c ds => T c (before ++ ds)) (as.foldlM f c) (as.filterMapM g) := by
  induction as generalizing c before with
  | nil =>
      rw [List.foldlM_nil, List.filterMapM_nil]
      exact .pure (by rwa [List.append_nil])
  | cons a as induction =>
      obtain ⟨first, rest⟩ := List.forall_mem_cons.mp fun b listed c ds =>
        steps c ds b listed
      rw [List.foldlM_cons, List.filterMapM_cons]
      refine (first c before start).bind fun c o next => ?_
      have loop := induction next fun c ds b listed => rest b listed c ds
      cases o with
      | none =>
          rw [Option.toList_none, List.append_nil] at loop
          exact loop
      | some d =>
          dsimp only
          rw [← bind_pure (List.foldlM f c as)]
          refine loop.bind fun c ds holds => .pure ?_
          rwa [Option.toList_some, List.append_assoc] at holds

/-- A loop over a state, beside one that collects what the state is made of. -/
theorem Alike.foldlM_filterMapM {T : γ → List δ → Prop} {f : γ → α → Read γ}
    {g : α → Read (Option δ)} {as : List α} {c : γ} (start : T c [])
    (steps : ∀ c ds, ∀ a ∈ as, T c ds →
      Alike (fun c o => T c (ds ++ o.toList)) (f c a) (g a)) :
    Alike T (as.foldlM f c) (as.filterMapM g) :=
  foldlM_filterMapM_from start steps

theorem indifferent_foldlM {f : β → α → Read β} (as : List α) (b : β)
    (steps : ∀ b a, Indifferent (f b a)) : Indifferent (as.foldlM f b) := by
  refine Alike.foldlM (R := Eq) (fun c _ a _ same same' => ?_)
    (List.forall₂_same.mpr fun _ _ => rfl) rfl
  cases same
  cases same'
  exact steps c a

end Loops

/-- The parts of two values in step, with ends that are alike. -/
structure Parts.Matched (R : α → β → Prop) (parts : Parts α) (others : Parts β) :
    Prop where
  items : List.Forall₂ R parts.items others.items
  close : Alike Eq parts.close others.close

def SameMember {κ ν : Type} (m n : Read κ × ν) : Prop :=
  Alike Eq m.1 n.1 ∧ m.2 = n.2

def SameChoice (c d : String × Read Unit) : Prop :=
  c.1 = d.1 ∧ Alike Eq c.2 d.2

/-- Whatever is read of a value does not depend on what has been noted. -/
class IndifferentSource (ν : Type) [Source ν] : Prop where
  text (v : ν) : Indifferent (Source.text v)
  flag (v : ν) : Indifferent (Source.flag v)
  present (v : ν) : Indifferent (Source.present v)
  items (v : ν) : Alike (Parts.Matched Eq) (Source.items v) (Source.items v)
  members (v : ν) :
    Alike (Parts.Matched SameMember) (Source.members v) (Source.members v)
  fields (v : ν) :
    Alike (Sum.LiftRel (Parts.Matched Eq) (Parts.Matched SameMember))
      (Source.fields v) (Source.fields v)
  choice (v : ν) : Alike SameChoice (Source.choice v) (Source.choice v)
  datum (v : ν) : Indifferent (Source.datum v)
  json (v : ν) : Indifferent (Source.json v)
  skip (v : ν) : Indifferent (Source.skip v)

section Readers

variable {ν ρ : Type} [Source ν] [IndifferentSource ν]

open IndifferentSource

theorem indifferent_optional {read : ν → Read α} (inner : ∀ w, Indifferent (read w))
    (v : ν) : Indifferent (optional read v) := by
  refine (present v).bind fun found => ?_
  cases found with
  | none => exact .pure rfl
  | some w => exact (inner w).bind fun a => .pure rfl

theorem indifferent_list {read : ν → Read α} (inner : ∀ w, Indifferent (read w))
    (v : ν) : Indifferent (list read v) := by
  refine (items v).bind fun parts others matched => ?_
  have same : parts.items = others.items :=
    List.forall₂_eq_eq_eq ▸ matched.items
  rw [← same]
  refine (indifferent_mapM _ inner).bind fun as => ?_
  exact matched.close.bind fun _ _ _ => .pure rfl

theorem indifferent_table {read : ν → Read α} (inner : ∀ w, Indifferent (read w))
    (v : ν) : Indifferent (table read v) := by
  refine (members v).bind fun parts others matched => ?_
  refine Alike.bind (Alike.foldlM (T := Eq) ?steps matched.items rfl)
    fun m _ same => ?close
  case steps =>
      intro m _ member other same alike
      obtain ⟨key, w⟩ := member
      obtain ⟨key', w'⟩ := other
      obtain ⟨named, rfl : w = w'⟩ := alike
      cases same
      refine named.bind fun k k' same => ?_
      cases same
      exact (inner w).bind fun a => .pure rfl
  case close =>
      cases same
      exact matched.close.bind fun _ _ _ => .pure rfl

theorem indifferent_choose {find? : String → Option α} (v : ν) :
    Indifferent (choose find? v) := by
  refine (choice v).bind fun c d same => ?_
  obtain ⟨name, check⟩ := c
  obtain ⟨_, check'⟩ := d
  obtain ⟨rfl, alike⟩ := same
  dsimp only at alike ⊢
  cases find? name with
  | none => exact .throw _
  | some a => exact alike.bind fun _ _ _ => .pure rfl

theorem indifferent_oneOf {first second : Datum → Read α}
    (one : ∀ d, Indifferent (first d)) (other : ∀ d, Indifferent (second d))
    (v : ν) : Indifferent (oneOf first second v) := by
  refine (datum v).bind fun d => ?_
  refine (one d).tryCatch fun _ => ?_
  exact (other d).tryCatch fun _ => .throw _

end Readers

section Records

variable {ν ρ : Type} [Source ν] {fields : List (Field ν ρ)}

def SameField (fields : List (Field ν ρ)) (m n : Read FieldKey × ν) : Prop :=
  Alike (fun key key' => key = key' ∧
      match key.find? fields with
      | none => Alike Eq (Source.skip m.2) (Source.skip n.2)
      | some field => Alike Eq (field.read m.2) (field.read n.2))
    m.1 n.1

theorem alike_namedFields {ms ns : List (Read FieldKey × ν)} {seen : List String}
    {r : ρ} (matched : List.Forall₂ (SameField fields) ms ns) :
    Alike Eq (namedFields fields seen r ms) (namedFields fields seen r ns) := by
  induction matched generalizing seen r with
  | nil => exact .pure rfl
  | @cons m n ms ns head _ induction =>
      obtain ⟨key, v⟩ := m
      obtain ⟨key', w⟩ := n
      refine Alike.bind head fun key _ alike => ?_
      obtain ⟨rfl, alike⟩ := alike
      revert alike
      cases key.find? fields with
      | none =>
          intro alike
          exact alike.bind fun _ _ _ => induction
      | some field =>
          intro alike
          dsimp only
          split
          · exact .throw _
          · refine alike.bind fun change _ same => ?_
            cases same
            exact induction

omit [Source ν] in
theorem indifferent_numberedFields {vs : List ν} {r : ρ}
    (inner : ∀ field ∈ fields, ∀ w, Indifferent (field.read w)) :
    Indifferent (numberedFields r fields vs) := by
  induction fields generalizing vs r with
  | nil =>
      rw [numberedFields.eq_def]
      exact .pure rfl
  | cons field fields induction =>
      cases vs with
      | nil => exact .pure rfl
      | cons v vs =>
          refine (inner field List.mem_cons_self v).bind fun put => ?_
          exact induction fun other listed =>
            inner other (List.mem_cons_of_mem field listed)

omit [Source ν] in
theorem mem_of_find?_eq_some {key : FieldKey} {field : Field ν ρ}
    (found : key.find? fields = some field) : field ∈ fields := by
  cases key with
  | name s => exact List.mem_of_find?_eq_some found
  | number n => exact List.mem_of_getElem? found

theorem alike_record {blank : ρ} {v w : ν}
    (inner : ∀ field ∈ fields, ∀ w, Indifferent (field.read w))
    (matched : Alike (Sum.LiftRel (Parts.Matched Eq)
      (Parts.Matched (SameField fields))) (Source.fields v) (Source.fields w)) :
    Alike Eq (record blank fields v) (record blank fields w) := by
  refine matched.bind fun found other related => ?_
  cases related with
  | inr parts =>
      refine (alike_namedFields parts.items).bind fun read _ same => ?_
      cases same
      refine parts.close.bind fun _ _ _ => ?_
      split
      · exact .pure rfl
      · exact .throw _
  | @inl parts others matched =>
      dsimp only
      have same : parts.items = others.items :=
        List.forall₂_eq_eq_eq ▸ matched.items
      rw [← same]
      refine (indifferent_numberedFields inner).bind fun read => ?_
      split
      · refine matched.close.bind fun _ _ _ => ?_
        split
        · exact .throw _
        · exact .pure rfl
      · exact .throw _

theorem sameField_of_sameMember [IndifferentSource ν]
    (inner : ∀ field ∈ fields, ∀ w, Indifferent (field.read w))
    {m n : Read FieldKey × ν} (same : SameMember m n) : SameField fields m n := by
  obtain ⟨named, same⟩ := same
  refine named.imp fun key _ same' => ?_
  cases same'
  refine ⟨rfl, ?_⟩
  rw [← same]
  cases found : key.find? fields with
  | none => exact IndifferentSource.skip m.2
  | some field => exact inner field (mem_of_find?_eq_some found) m.2

theorem indifferent_record [IndifferentSource ν] {blank : ρ}
    (inner : ∀ field ∈ fields, ∀ w, Indifferent (field.read w)) (v : ν) :
    Indifferent (record blank fields v) := by
  refine alike_record inner ((IndifferentSource.fields v).imp fun a b related => ?_)
  cases related with
  | inl parts => exact .inl parts
  | inr parts =>
      refine .inr ⟨parts.items.imp fun m n same => ?_, parts.close⟩
      exact sameField_of_sameMember inner same

end Records

end Reading

end ApiBindings
