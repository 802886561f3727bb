import ApiBindings.Log
import Mathlib.Data.List.Forall2

/-!
Laws of sequencing. The outcome and the messages of a computation are found
from those of its parts, so that no proof looks inside `bind`.
-/

namespace ApiBindings

variable {ε ε' α β γ : Type}

/-! Lists whose elements are related one by one, as a loop relates what it
takes to what it gives. -/

theorem map_eq_of_forall₂ {R : α → β → Prop}
    {f : α → γ} {g : β → γ} {xs : List α} {ys : List β}
    (related : List.Forall₂ R xs ys) (same : ∀ x y, R x y → f x = g y) :
    xs.map f = ys.map g := by
  induction related with
  | nil => rfl
  | cons first _ induction =>
      rw [List.map_cons, List.map_cons, same _ _ first, induction]

theorem flatMap_eq_of_forall₂ {R : α → β → Prop}
    {f : α → List γ} {g : β → List γ} {xs : List α} {ys : List β}
    (related : List.Forall₂ R xs ys) (same : ∀ x y, R x y → f x = g y) :
    xs.flatMap f = ys.flatMap g := by
  rw [List.flatMap_def, List.flatMap_def, map_eq_of_forall₂ related same]

theorem forall_mem_of_forall₂ {R : α → β → Prop} {P : α → Prop} {Q : β → Prop}
    {xs : List α} {ys : List β} (related : List.Forall₂ R xs ys)
    (same : ∀ x y, R x y → (P x ↔ Q y)) :
    (∀ x ∈ xs, P x) ↔ ∀ y ∈ ys, Q y := by
  induction related with
  | nil => simp
  | cons first _ induction =>
      rw [List.forall_mem_cons, List.forall_mem_cons, same _ _ first, induction]

theorem pairwise_of_forall₂ {R : α → β → Prop} {P : α → α → Prop}
    {Q : β → β → Prop} {xs : List α} {ys : List β}
    (related : List.Forall₂ R xs ys)
    (same : ∀ x y x' y', R x y → R x' y' → (P x x' ↔ Q y y')) :
    xs.Pairwise P ↔ ys.Pairwise Q := by
  induction related with
  | nil => simp
  | cons first rest induction =>
      rw [List.pairwise_cons, List.pairwise_cons, induction,
        forall_mem_of_forall₂ rest fun x y => same _ _ x y first]

theorem exists_of_mem_right {R : α → β → Prop} {xs : List α} {ys : List β}
    {y : β} (related : List.Forall₂ R xs ys) (member : y ∈ ys) :
    ∃ x ∈ xs, R x y := by
  induction related with
  | nil => cases member
  | @cons x _ _ _ first _ induction =>
      rcases List.mem_cons.mp member with rfl | later
      · exact ⟨x, List.mem_cons_self, first⟩
      · obtain ⟨x, listed, found⟩ := induction later
        exact ⟨x, List.mem_cons_of_mem _ listed, found⟩

theorem exists_of_mem_left {R : α → β → Prop} {xs : List α} {ys : List β}
    {x : α} (related : List.Forall₂ R xs ys) (member : x ∈ xs) :
    ∃ y ∈ ys, R x y :=
  exists_of_mem_right related.flip member

theorem exists_forall₂_iff {R : α → β → Prop} {xs : List α} :
    (∃ ys, List.Forall₂ R xs ys) ↔ ∀ x ∈ xs, ∃ y, R x y := by
  induction xs with
  | nil => simp
  | cons x xs induction =>
      simp only [List.forall_mem_cons, ← induction,
        List.forall₂_cons_left_iff]
      constructor
      · rintro ⟨_, y, ys, first, rest, rfl⟩
        exact ⟨⟨y, first⟩, ys, rest⟩
      · rintro ⟨⟨y, first⟩, ys, rest⟩
        exact ⟨_, y, ys, first, rest, rfl⟩

theorem findSome?_flatMap {f : α → List β} {p : β → Option γ} (xs : List α) :
    (xs.flatMap f).findSome? p = xs.findSome? fun x => (f x).findSome? p := by
  induction xs with
  | nil => rfl
  | cons x xs induction =>
      rw [List.flatMap_cons, List.findSome?_append, List.findSome?_cons,
        induction]
      cases (f x).findSome? p <;> rfl

theorem forall₂_zipIdx {R : α → β → Prop} {xs : List α} {ys : List β}
    (related : List.Forall₂ R xs ys) (i : Nat) :
    List.Forall₂ (fun x y => R x.1 y.1 ∧ x.2 = y.2) (xs.zipIdx i)
      (ys.zipIdx i) := by
  induction related generalizing i with
  | nil => exact .nil
  | cons first _ induction => exact .cons ⟨first, rfl⟩ (induction (i + 1))

theorem mapM_congr_of_mem {m : Type → Type} [Monad m] [LawfulMonad m]
    {f g : α → m β} {xs : List α} (same : ∀ x ∈ xs, f x = g x) :
    xs.mapM f = xs.mapM g := by
  induction xs with
  | nil => rfl
  | cons x xs induction =>
      rw [List.mapM_cons, List.mapM_cons, same x List.mem_cons_self,
        induction fun y listed => same y (List.mem_cons_of_mem x listed)]

/-! Loops over a list that keep what the steps give, if they give anything. -/
section FilterMap

variable {m : Type → Type} [Monad m] [LawfulMonad m] {f g : α → m (Option β)}

theorem filterMapM_congr_of_mem {xs : List α} (same : ∀ x ∈ xs, f x = g x) :
    xs.filterMapM f = xs.filterMapM g := by
  induction xs with
  | nil => simp
  | cons x xs induction =>
      rw [List.filterMapM_cons, List.filterMapM_cons,
        same x List.mem_cons_self,
        induction fun y listed => same y (List.mem_cons_of_mem x listed)]

theorem filterMapM_map (h : γ → α) (xs : List γ) :
    (xs.map h).filterMapM f = xs.filterMapM fun x => f (h x) := by
  induction xs with
  | nil => simp
  | cons x xs induction =>
      rw [List.map_cons, List.filterMapM_cons, List.filterMapM_cons, induction]

theorem filterMapM_filter {p : α → Bool} {xs : List α}
    (idle : ∀ x ∈ xs, p x = false → f x = pure none) :
    (xs.filter p).filterMapM f = xs.filterMapM f := by
  induction xs with
  | nil => rfl
  | cons x xs induction =>
      have rest := induction fun y listed =>
        idle y (List.mem_cons_of_mem x listed)
      cases kept : p x with
      | true =>
          rw [List.filter_cons_of_pos kept, List.filterMapM_cons,
            List.filterMapM_cons, rest]
      | false =>
          rw [List.filter_cons_of_neg (by simp [kept]), rest,
            List.filterMapM_cons, idle x List.mem_cons_self kept, pure_bind]

theorem filterMap_mapM (xs : List α) :
    List.filterMap id <$> xs.mapM f = xs.filterMapM f := by
  induction xs with
  | nil => simp
  | cons x xs induction =>
      rw [List.mapM_cons, List.filterMapM_cons, ← induction]
      simp only [map_eq_pure_bind, bind_assoc, pure_bind]
      congr 1
      funext o
      cases o <;> simp

end FilterMap

namespace Outcome

@[simp] theorem ok_bind (a : α) (f : α → Except ε β) :
    (.ok a : Except ε α) >>= f = f a := rfl

@[simp] theorem error_bind (e : ε) (f : α → Except ε β) :
    (.error e : Except ε α) >>= f = .error e := rfl

@[simp] theorem map_ok (f : α → β) (a : α) :
    (.ok a : Except ε α).map f = .ok (f a) := rfl

@[simp] theorem map_error (f : α → β) (e : ε) :
    (.error e : Except ε α).map f = .error e := rfl

@[simp] theorem mapError_ok (f : ε → ε') (a : α) :
    (.ok a : Except ε α).mapError f = .ok a := rfl

@[simp] theorem mapError_error (f : ε → ε') (e : ε) :
    (.error e : Except ε α).mapError f = .error (f e) := rfl

@[simp] theorem bind_eq_ok {x : Except ε α} {f : α → Except ε β} {b : β} :
    x >>= f = .ok b ↔ ∃ a, x = .ok a ∧ f a = .ok b := by
  cases x with
  | error e => simp [bind, Except.bind]
  | ok a => simp [bind, Except.bind]

@[simp] theorem map_eq_ok {x : Except ε α} {f : α → β} {b : β} :
    x.map f = .ok b ↔ ∃ a, x = .ok a ∧ f a = b := by
  cases x <;> simp [Except.map]

@[simp] theorem mapError_eq_ok {x : Except ε α} {f : ε → ε'} {a : α} :
    x.mapError f = .ok a ↔ x = .ok a := by
  cases x <;> simp [Except.mapError]

theorem map_eq_map (f : α → β) (x : Except ε α) :
    f <$> x = x.map f := rfl

theorem mapM_eq_ok {f : α → Except ε β} {xs : List α} {ys : List β} :
    xs.mapM f = .ok ys ↔ List.Forall₂ (fun x y => f x = .ok y) xs ys := by
  induction xs generalizing ys with
  | nil =>
      rw [List.mapM_nil, List.forall₂_nil_left_iff]
      exact ⟨fun same => (Except.ok.inj same).symm, fun same => by rw [same]; rfl⟩
  | cons x xs induction =>
      simp only [List.mapM_cons, bind_eq_ok, induction,
        List.forall₂_cons_left_iff]
      constructor
      · rintro ⟨y, first, rest, others, ⟨⟩⟩
        exact ⟨y, rest, first, others, rfl⟩
      · rintro ⟨y, rest, first, others, rfl⟩
        exact ⟨y, first, rest, others, rfl⟩

theorem sound_or_first_error (f : α → Except ε β) (xs : List α) :
    (∀ x ∈ xs, ∃ b, f x = .ok b) ∨
      ∃ before x after e, xs = before ++ x :: after ∧
        (∀ y ∈ before, ∃ b, f y = .ok b) ∧ f x = .error e := by
  induction xs with
  | nil => exact .inl nofun
  | cons x xs induction =>
      cases given : f x with
      | error e => exact .inr ⟨[], x, xs, e, rfl, nofun, given⟩
      | ok b =>
          rcases induction with sound | ⟨before, y, after, e, rfl, sound, failed⟩
          · exact .inl (List.forall_mem_cons.mpr ⟨⟨b, given⟩, sound⟩)
          · exact .inr ⟨x :: before, y, after, e, rfl,
              List.forall_mem_cons.mpr ⟨⟨b, given⟩, sound⟩, failed⟩

theorem filterMapM_eq_error {f : α → Except ε (Option β)}
    {before after : List α} {x : α} {e : ε}
    (sound : ∀ y ∈ before, ∃ o, f y = .ok o) (failed : f x = .error e) :
    (before ++ x :: after).filterMapM f = .error e := by
  induction before with
  | nil => rw [List.nil_append, List.filterMapM_cons, failed, error_bind]
  | cons y before induction =>
      obtain ⟨o, given⟩ := sound y List.mem_cons_self
      have rest := induction fun z listed =>
        sound z (List.mem_cons_of_mem y listed)
      rw [List.cons_append, List.filterMapM_cons, given, ok_bind, rest]
      cases o <;> rfl

/-- A loop whose steps keep, change or leave out what the steps of another loop
give. -/
theorem filterMapM_bind {f : α → Except ε (Option β)} (keep : β → Option γ)
    (xs : List α) :
    xs.filterMapM (fun x => (f x).map (Option.bind · keep)) =
      (xs.filterMapM f).map (List.filterMap keep) := by
  induction xs with
  | nil => rfl
  | cons x xs induction =>
      rw [List.filterMapM_cons, List.filterMapM_cons, induction]
      cases f x with
      | error e => rfl
      | ok o =>
          cases o with
          | none => simp
          | some y =>
              cases xs.filterMapM f <;> cases kept : keep y <;> simp [kept]

/-- Two loops over lists that are related, whose steps keep two states
related. -/
theorem foldlM_related {σ τ : Type} {f : σ → α → Except ε σ}
    {g : τ → β → Except ε τ} {R : α → β → Prop} {Q : σ → τ → Prop}
    {xs : List α} {ys : List β} (related : List.Forall₂ R xs ys)
    (step : ∀ x y, R x y → ∀ s t, Q s t →
      ∃ s' t', f s x = .ok s' ∧ g t y = .ok t' ∧ Q s' t')
    {s : σ} {t : τ} (start : Q s t) :
    ∃ s' t', xs.foldlM f s = .ok s' ∧ ys.foldlM g t = .ok t' ∧ Q s' t' := by
  induction related generalizing s t with
  | nil => exact ⟨s, t, rfl, rfl, start⟩
  | cons first _ induction =>
      obtain ⟨s', t', left, right, next⟩ := step _ _ first s t start
      rw [List.foldlM_cons, List.foldlM_cons, left, right, ok_bind, ok_bind]
      exact induction next

def failure? : Except ε α → Option ε
  | .ok _ => none
  | .error e => some e

@[simp] theorem failure?_eq_some {x : Except ε α} {e : ε} :
    failure? x = some e ↔ x = .error e := by
  cases x <;> simp [failure?]

@[simp] theorem failure?_map (f : α → β) (x : Except ε α) :
    failure? (x.map f) = failure? x := by
  cases x <;> rfl

theorem failure?_bind {x : Except ε α} {f : α → Except ε β} {o : Option ε}
    (next : ∀ a, failure? (f a) = o) :
    failure? (x >>= f) = (failure? x).or o := by
  cases x with
  | error e => rfl
  | ok a => exact next a

theorem failure?_bind_ok (x : Except ε α) (f : α → β) :
    failure? (x >>= fun a => .ok (f a)) = failure? x := by
  cases x <;> rfl

theorem failure?_mapM (f : α → Except ε β) (xs : List α) :
    failure? (xs.mapM f) = xs.findSome? fun x => failure? (f x) := by
  induction xs with
  | nil => rfl
  | cons x xs induction =>
      rw [List.mapM_cons, List.findSome?_cons]
      cases f x with
      | error e => rfl
      | ok y =>
          rw [ok_bind, ← induction]
          cases xs.mapM f <;> rfl

theorem failure?_filterMapM (f : α → Except ε (Option β)) (xs : List α) :
    failure? (xs.filterMapM f) = xs.findSome? fun x => failure? (f x) := by
  rw [← filterMap_mapM, map_eq_map, failure?_map, failure?_mapM]

end Outcome

namespace Traced

@[simp] theorem log_pure (a : α) : (pure a : Traced ε α).log = [] := rfl

@[simp] theorem log_fail (e : ε) : (fail e : Traced ε α).log = [] := rfl

theorem bind_of_ok {x : Traced ε α} {a : α} (ok : x.result = .ok a)
    (f : α → Traced ε β) :
    x >>= f = ⟨x.log ++ (f a).log, (f a).result⟩ := by
  change Traced.bind x f = _
  rw [Traced.bind, ok]

theorem bind_of_error {x : Traced ε α} {e : ε} (error : x.result = .error e)
    (f : α → Traced ε β) : x >>= f = ⟨x.log, .error e⟩ := by
  change Traced.bind x f = _
  rw [Traced.bind, error]

private theorem bind_assoc' (x : Traced ε α) (f : α → Traced ε β)
    (g : β → Traced ε γ) : x >>= f >>= g = x >>= fun a => f a >>= g := by
  cases outcome : x.result with
  | error e =>
      rw [bind_of_error outcome, bind_of_error outcome]
      rfl
  | ok a =>
      rw [bind_of_ok outcome, bind_of_ok outcome]
      cases next : (f a).result with
      | error e => rw [bind_of_error rfl, bind_of_error next]
      | ok b =>
          rw [bind_of_ok rfl, bind_of_ok next]
          simp

instance : LawfulMonad (Traced ε) := LawfulMonad.mk' _
  (fun x => by
    change x >>= pure = x
    cases outcome : x.result with
    | error e =>
        rw [bind_of_error outcome, ← outcome]
    | ok a =>
        rw [bind_of_ok outcome]
        simp [← outcome])
  (fun a f => by
    rw [bind_of_ok (result_pure a)]
    rfl)
  bind_assoc'

@[simp] theorem map_fail (f : α → β) (e : ε) :
    f <$> (fail e : Traced ε α) = fail e := by
  rw [map_eq_pure_bind]
  rfl

@[simp] theorem log_map (f : α → β) (x : Traced ε α) :
    (f <$> x).log = x.log := by
  rw [map_eq_pure_bind]
  cases outcome : x.result with
  | error e => rw [bind_of_error outcome]
  | ok a => simp [bind_of_ok outcome]

theorem log_bind_eq_nil {x : Traced ε α} {f : α → Traced ε β}
    (first : x.log = []) (second : ∀ a, x.result = .ok a → (f a).log = []) :
    (x >>= f).log = [] := by
  cases outcome : x.result with
  | error e => rw [bind_of_error outcome, first]
  | ok a => rw [bind_of_ok outcome, first, second a outcome]; rfl

@[simp] theorem result_map (f : α → β) (x : Traced ε α) :
    (f <$> x).result = x.result.map f := by
  rw [map_eq_pure_bind, result_bind]
  cases x.result <;> rfl

def Succeeds (x : Traced ε α) : Prop := ∃ a, x.result = .ok a

@[simp] theorem succeeds_pure (a : α) : (pure a : Traced ε α).Succeeds :=
  ⟨a, rfl⟩

@[simp] theorem not_succeeds_fail (e : ε) : ¬ (fail e : Traced ε α).Succeeds := by
  rintro ⟨a, ok⟩
  cases ok

@[simp] theorem succeeds_map (f : α → β) (x : Traced ε α) :
    (f <$> x).Succeeds ↔ x.Succeeds := by
  constructor
  · rintro ⟨b, ok⟩
    rw [result_map, Outcome.map_eq_ok] at ok
    obtain ⟨a, ran, _⟩ := ok
    exact ⟨a, ran⟩
  · rintro ⟨a, ran⟩
    exact ⟨f a, by simp [ran]⟩

/-- Two computations of which neither needs the other. -/
theorem succeeds_both (x : Traced ε α) (y : Traced ε β) (f : α → β → γ) :
    (do let a ← x; let b ← y; return f a b : Traced ε γ).Succeeds ↔
      x.Succeeds ∧ y.Succeeds := by
  constructor
  · rintro ⟨c, ok⟩
    simp only [result_bind, Outcome.bind_eq_ok] at ok
    obtain ⟨a, first, b, second, _⟩ := ok
    exact ⟨⟨a, first⟩, b, second⟩
  · rintro ⟨⟨a, first⟩, b, second⟩
    refine ⟨f a b, ?_⟩
    simp only [result_bind, Outcome.bind_eq_ok]
    exact ⟨a, first, b, second, rfl⟩

theorem result_mapM (f : α → Traced ε β) (xs : List α) :
    (xs.mapM f).result = xs.mapM fun x => (f x).result := by
  induction xs with
  | nil => rfl
  | cons x xs induction =>
      simp only [List.mapM_cons, result_bind, result_pure, induction]
      rfl

theorem result_mapM_eq_ok {f : α → Traced ε β} {xs : List α} {ys : List β} :
    (xs.mapM f).result = .ok ys ↔
      List.Forall₂ (fun x y => (f x).result = .ok y) xs ys := by
  rw [result_mapM, Outcome.mapM_eq_ok]

theorem succeeds_mapM {f : α → Traced ε β} {xs : List α} :
    (xs.mapM f).Succeeds ↔ ∀ x ∈ xs, (f x).Succeeds := by
  simp only [Succeeds, result_mapM_eq_ok]
  exact exists_forall₂_iff

/-- A loop whose steps add their outcomes to a state: all outcomes come first,
then the state. -/
theorem result_foldlM {σ : Type} {f : σ → α → Traced ε σ}
    {outcome : α → Except ε β} {put : σ → β → σ}
    (step : ∀ s x, (f s x).result = (outcome x).map (put s))
    (xs : List α) (s : σ) :
    (xs.foldlM f s).result =
      (xs.mapM outcome).map fun ys => ys.foldl put s := by
  induction xs generalizing s with
  | nil => rfl
  | cons x xs induction =>
      rw [List.foldlM_cons, List.mapM_cons, result_bind, step]
      cases outcome x with
      | error e => rfl
      | ok y =>
          rw [Outcome.map_ok, Outcome.ok_bind, Outcome.ok_bind, induction]
          cases xs.mapM outcome <;> rfl

theorem result_bind_of_ok {x : Traced ε α} {a : α} (ran : x.result = .ok a)
    (f : α → Traced ε β) : (x >>= f).result = (f a).result := by
  rw [result_bind, ran, Outcome.ok_bind]

/-- A loop whose steps only leave messages. -/
theorem result_forIn_of_ok {f : α → Traced ε PUnit}
    (idle : ∀ x, (f x).result = .ok ⟨⟩) (xs : List α) :
    (forIn xs PUnit.unit fun x _ => do
      f x
      pure (.yield PUnit.unit) : Traced ε PUnit).result = .ok ⟨⟩ := by
  induction xs with
  | nil => rfl
  | cons x xs induction =>
      rw [List.forIn_cons, bind_assoc, result_bind_of_ok (idle x), pure_bind,
        induction]

end Traced

end ApiBindings
