import ApiBindings.Text.Search
import Mathlib.Data.List.Infix

/-!
Texts in which no comment ends.
-/

namespace ApiBindings.Text

/-- No comment ends within the text. -/
def Quiet (cs : List Char) : Prop := ¬ ['*', '/'] <:+: cs

instance (cs : List Char) : Decidable (Quiet cs) :=
  inferInstanceAs (Decidable (¬ ['*', '/'] <:+: cs))

variable {c : Char} {cs left right : List Char}

theorem quiet_nil : Quiet [] := by simp [Quiet]

theorem quiet_cons (plain : c ≠ '*') : Quiet (c :: cs) ↔ Quiet cs := by
  simp [Quiet, List.infix_cons_iff, plain.symm]

theorem quiet_star_cons (plain : cs.head? ≠ some '/') :
    Quiet ('*' :: cs) ↔ Quiet cs := by
  cases cs with
  | nil => decide
  | cons c cs =>
      have other : '/' ≠ c := fun same => plain (same ▸ rfl)
      simp [Quiet, List.infix_cons_iff, other]

/-- The end of a comment does not get together from two texts. -/
theorem quiet_append
    (apart : left.getLast? ≠ some '*' ∨ right.head? ≠ some '/') :
    Quiet (left ++ right) ↔ Quiet left ∧ Quiet right := by
  unfold Quiet
  rw [List.infix_append_iff, ← not_or, not_iff_not, ← or_assoc,
    or_iff_left_of_imp]
  rintro ⟨start, rest, cut, ⟨before, rfl⟩, ⟨after, rfl⟩⟩
  cases start with
  | nil => exact .inr ⟨[], after, by rw [cut]; rfl⟩
  | cons c start =>
      cases start with
      | nil =>
          cases cut
          rcases apart with apart | apart <;> simp at apart
      | cons d start =>
          obtain ⟨rfl, rfl, rest⟩ : '*' = c ∧ '/' = d ∧ [] = start ++ rest := by
            simpa using cut
          rw [(List.append_eq_nil_iff.mp rest.symm).1]
          exact .inl ⟨before, [], by simp⟩

theorem head?_replaceFrom (text : List Char) (other : text.head? ≠ some '/') :
    (replaceFrom ['*', '/'] ['*', '\\', '/'] 0 text).head? ≠ some '/' := by
  cases text with
  | nil => exact other
  | cons c text =>
      rw [replaceFrom]
      split
      · simp
      · exact other

theorem quiet_replaceFrom (skip : Nat) (text : List Char) :
    Quiet (replaceFrom ['*', '/'] ['*', '\\', '/'] skip text) := by
  induction text generalizing skip with
  | nil => cases skip <;> exact quiet_nil
  | cons c text induction =>
      cases skip with
      | succ skip => exact induction skip
      | zero =>
          rw [replaceFrom]
          split
          next =>
            rw [quiet_append (.inl (by decide))]
            exact ⟨by decide, induction 1⟩
          next other =>
            -- The sign after a star that is left alone is kept, or an end of
            -- its own is put there.
            by_cases star : c = '*'
            · subst star
              refine (quiet_star_cons (head?_replaceFrom text ?_)).mpr
                (induction 0)
              intro slash
              cases text with
              | nil => cases slash
              | cons d text =>
                  cases slash
                  exact other rfl
            · exact (quiet_cons star).mpr (induction 0)

end ApiBindings.Text
