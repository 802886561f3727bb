import ApiBindings.Proofs.Outcome

/-!
Which messages a computation can leave behind, and in which order: those of its
parts, one part after the other.
-/

namespace ApiBindings.Traced

variable {ε ε' α β σ : Type} {p q : LogRecord → Prop} {x : Traced ε α}
  {f : α → Traced ε β}

def Tells (p : LogRecord → Prop) (x : Traced ε α) : Prop := ∀ r ∈ x.log, p r

theorem tells_pure (a : α) : (pure a : Traced ε α).Tells p := nofun

theorem tells_fail (e : ε) : (fail e : Traced ε α).Tells p := nofun

theorem tells_ofExcept (y : Except ε α) : (ofExcept y).Tells p := nofun

theorem tells_note {level : Level} {message : String} (kind : p ⟨level, message⟩) :
    (note level message : Traced ε Unit).Tells p := by
  intro r member
  obtain rfl := List.mem_singleton.mp member
  exact kind

theorem Tells.mono (told : x.Tells p) (weaker : ∀ r, p r → q r) : x.Tells q :=
  fun r member => weaker r (told r member)

theorem Tells.mapError (told : x.Tells p) (g : ε → ε') : (x.mapError g).Tells p :=
  told

theorem Tells.attempt (told : x.Tells p) :
    (x.attempt : Traced ε' (Except ε α)).Tells p :=
  told

theorem Tells.bind (first : x.Tells p) (next : ∀ a, (f a).Tells p) :
    (x >>= f).Tells p := by
  cases outcome : x.result with
  | error e =>
      rw [bind_of_error outcome]
      exact first
  | ok a =>
      rw [bind_of_ok outcome]
      intro r member
      rcases List.mem_append.mp member with before | after
      · exact first r before
      · exact next a r after

theorem Tells.map (told : x.Tells p) (g : α → β) : (g <$> x).Tells p := by
  rw [Tells, log_map]
  exact told

theorem tells_mapM (each : ∀ a, (f a).Tells p) (xs : List α) :
    (xs.mapM f).Tells p := by
  induction xs with
  | nil => exact tells_pure _
  | cons a xs induction =>
      rw [List.mapM_cons]
      exact (each a).bind fun b => induction.bind fun bs => tells_pure _

/-! The messages of one kind, in the order in which they are left behind. -/
section Messages

variable (p) [DecidablePred p]

def messages (x : Traced ε α) : List LogRecord := x.log.filter p

theorem messages_of_tells (other : x.Tells fun r => ¬ p r) : x.messages p = [] := by
  rw [messages, List.filter_eq_nil_iff]
  intro r member
  simpa using other r member

theorem messages_note {level : Level} {message : String} (kind : p ⟨level, message⟩)
    (a : α) :
    (do note level message; return a : Traced ε α).messages p = [⟨level, message⟩] :=
  List.filter_cons_of_pos (decide_eq_true kind)

theorem messages_bind {b : β} (ran : (x >>= f).result = .ok b) :
    ∃ a, x.result = .ok a ∧ (f a).result = .ok b ∧
      (x >>= f).messages p = x.messages p ++ (f a).messages p := by
  obtain ⟨a, first, rest⟩ := Outcome.bind_eq_ok.mp ((result_bind x f).symm.trans ran)
  refine ⟨a, first, rest, ?_⟩
  rw [bind_of_ok first, messages, List.filter_append]
  rfl

/-- A loop each of whose steps adds the messages that its state is then said to
have. -/
theorem messages_foldlM {step : σ → α → Traced ε σ} (heard : σ → List LogRecord)
    (each : ∀ s a t, (step s a).result = .ok t →
      heard s ++ (step s a).messages p = heard t)
    {xs : List α} {s t : σ} (ran : (xs.foldlM step s).result = .ok t) :
    heard s ++ (xs.foldlM step s).messages p = heard t := by
  induction xs generalizing s with
  | nil =>
      cases ran
      exact List.append_nil _
  | cons a xs induction =>
      rw [List.foldlM_cons] at ran ⊢
      obtain ⟨middle, first, rest, all⟩ := messages_bind p ran
      rw [all, ← List.append_assoc, each s a middle first]
      exact induction rest

end Messages

end ApiBindings.Traced
