import ApiBindings.Text.Search
import Mathlib.Data.List.Infix
import Mathlib.Logic.Function.Iterate
import Mathlib.Logic.Relation

/-!
Occurrences of a pattern that are taken out of a text one at a time. If no two
occurrences can overlap, every order of doing so ends in the same text, which is
also what erasing all occurrences of a round at once ends in.
-/

namespace ApiBindings.Text

open Relation (ReflGen ReflTransGen)

/-- One occurrence of the pattern is taken out. -/
inductive Deletion (pattern : List Char) : List Char → List Char → Prop
  | between (before after : List Char) :
      Deletion pattern (before ++ (pattern ++ after)) (before ++ after)

/-- No two occurrences overlap: what ends the pattern and also starts it is
nothing, or all of it. -/
def Unbordered (pattern : List Char) : Prop :=
  ∀ piece, piece <:+ pattern → piece <+: pattern → piece = [] ∨ piece = pattern

instance (pattern : List Char) : Decidable (Unbordered pattern) :=
  decidable_of_iff (∀ piece ∈ pattern.tails, piece <+: pattern →
    piece = [] ∨ piece = pattern) (by simp only [List.mem_tails, Unbordered])

variable {pattern text rest other before before' after after' middle : List Char}

theorem contains_iff : contains pattern text = true ↔ pattern <:+: text := by
  induction text with
  | nil => simp [contains]
  | cons c text induction =>
      rw [contains, Bool.or_eq_true, List.isPrefixOf_iff_prefix, induction,
        List.infix_cons_iff]

/-- A text is left alone if it does not hold the sign. -/
theorem filter_ne_of_not_mem {c : Char} (absent : c ∉ text) :
    text.filter (· ≠ c) = text := by
  rw [List.filter_eq_self]
  intro d member
  apply decide_eq_true
  rintro rfl
  exact absent member

theorem eraseAll_of_not_infix (none : ¬ pattern <:+: text) :
    eraseAll pattern text = text := by
  rw [eraseAll, dif_neg]
  exact fun found => none (contains_iff.mp found.2)

namespace Deletion

theorem length (step : Deletion pattern text rest) :
    rest.length + pattern.length = text.length := by
  cases step with
  | between before after =>
      simp only [List.length_append]
      omega

theorem occurs (step : Deletion pattern text rest) : pattern <:+: text := by
  cases step with
  | between before after => exact ⟨before, after, List.append_assoc ..⟩

theorem sublist (step : Deletion pattern text rest) : rest.Sublist text := by
  cases step with
  | between before after =>
      exact (List.sublist_append_right pattern after).append_left before

theorem cons (c : Char) (step : Deletion pattern text rest) :
    Deletion pattern (c :: text) (c :: rest) := by
  cases step with
  | between before after => exact .between (c :: before) after

/-- No order of taking occurrences out goes on forever. -/
theorem wellFounded (nonempty : pattern ≠ []) :
    WellFounded fun rest text => Deletion pattern text rest := by
  refine Subrelation.wf (fun {rest text} step => ?_) (measure List.length).wf
  have shrunk := step.length
  have positive := List.length_pos_iff.mpr nonempty
  show rest.length < text.length
  omega

end Deletion

/-- The second of two occurrences lies behind the first, or taking out either
leaves the same text. -/
theorem apart_or_same (unbordered : Unbordered pattern)
    (cut : pattern ++ after = middle ++ (pattern ++ after')) :
    (∃ between, middle = pattern ++ between ∧
      after = between ++ (pattern ++ after')) ∨ after = middle ++ after' := by
  rcases List.append_eq_append_iff.mp cut with
    ⟨between, behind, rest⟩ | ⟨piece, split, rest⟩
  · exact .inl ⟨between, behind, rest⟩
  · have ends : piece <:+ pattern := ⟨middle, split.symm⟩
    have whole : pattern <+: pattern ++ after' := List.prefix_append _ _
    have starts : piece <+: pattern :=
      List.prefix_of_prefix_length_le ⟨after, rest.symm⟩ whole ends.length_le
    rcases unbordered piece ends starts with rfl | rfl
    · rw [List.append_nil] at split
      rw [← split]
      exact .inr rest.symm
    · have start : middle = [] := by simpa using split
      rw [start, List.nil_append]
      exact .inr (List.append_cancel_left rest).symm

theorem join_of_behind (unbordered : Unbordered pattern)
    (cut : pattern ++ after = middle ++ (pattern ++ after')) :
    before ++ after = (before ++ middle) ++ after' ∨
      ∃ end', Deletion pattern (before ++ after) end' ∧
        Deletion pattern ((before ++ middle) ++ after') end' := by
  rcases apart_or_same unbordered cut with ⟨between, rfl, rfl⟩ | rfl
  · refine .inr ⟨before ++ between ++ after', ?_, ?_⟩
    · rw [← List.append_assoc]
      exact .between (before ++ between) after'
    · simp only [List.append_assoc]
      exact .between before (between ++ after')
  · exact .inl (List.append_assoc ..).symm

theorem Deletion.diamond (unbordered : Unbordered pattern)
    (first : Deletion pattern text rest) (second : Deletion pattern text other) :
    rest = other ∨
      ∃ last, Deletion pattern rest last ∧ Deletion pattern other last := by
  generalize same : text = start at second
  obtain ⟨before, after⟩ := first
  obtain ⟨before', after'⟩ := second
  rcases List.append_eq_append_iff.mp same with
    ⟨middle, rfl, cut⟩ | ⟨middle, rfl, cut⟩
  · exact join_of_behind unbordered cut
  · rcases join_of_behind unbordered cut with same | ⟨last, left, right⟩
    · exact .inl same.symm
    · exact .inr ⟨last, right, left⟩

theorem deletions_join (unbordered : Unbordered pattern)
    (first : ReflTransGen (Deletion pattern) text rest)
    (second : ReflTransGen (Deletion pattern) text other) :
    Relation.Join (ReflTransGen (Deletion pattern)) rest other := by
  refine Relation.church_rosser (fun text rest other left right => ?_) first second
  rcases left.diamond unbordered right with rfl | ⟨last, left, right⟩
  · exact ⟨rest, .refl, .refl⟩
  · exact ⟨last, .single left, .single right⟩

theorem sublist_of_deletions
    (steps : ReflTransGen (Deletion pattern) text rest) : rest.Sublist text := by
  induction steps with
  | refl => exact List.Sublist.refl text
  | tail _ step induction => exact step.sublist.trans induction

theorem eq_of_deletions (none : ¬ pattern <:+: text)
    (steps : ReflTransGen (Deletion pattern) text rest) : rest = text := by
  rcases steps.cases_head with same | ⟨_, step, _⟩
  · exact same.symm
  · exact absurd step.occurs none

theorem Deletion.of_prefix (begins : pattern <+: text) :
    Deletion pattern text (text.drop pattern.length) := by
  obtain ⟨after, rfl⟩ := begins
  rw [List.drop_left]
  exact .between [] after

/-- One round takes occurrences out from the left. The signs that it passes over
are those of an occurrence that has been taken out. -/
theorem deletions_replaceFrom (nonempty : pattern ≠ []) (skip : Nat)
    (text : List Char) :
    ReflTransGen (Deletion pattern) (text.drop skip)
      (replaceFrom pattern [] skip text) := by
  induction text generalizing skip with
  | nil => cases skip <;> exact .refl
  | cons c text induction =>
      cases skip with
      | succ skip => exact induction skip
      | zero =>
          rw [replaceFrom, List.drop_zero]
          split
          next here =>
            have step := Deletion.of_prefix (List.isPrefixOf_iff_prefix.mp here)
            obtain ⟨length, counted⟩ :=
              Nat.exists_eq_add_one.mpr (List.length_pos_iff.mpr nonempty)
            rw [counted] at step ⊢
            exact .head step (induction length)
          next other =>
            exact (induction 0).lift (c :: ·) fun _ _ step => step.cons c

theorem deletions_eraseAll (pattern text : List Char) :
    ReflTransGen (Deletion pattern) text (eraseAll pattern text) := by
  induction text using eraseAll.induct pattern with
  | case1 text found shorter induction =>
      rw [eraseAll, dif_pos found]
      exact (deletions_replaceFrom found.1 0 text).trans induction
  | case2 text done =>
      rw [eraseAll, dif_neg done]

theorem not_infix_eraseAll (nonempty : pattern ≠ []) (text : List Char) :
    ¬ pattern <:+: eraseAll pattern text := by
  induction text using eraseAll.induct pattern with
  | case1 text found shorter induction =>
      rw [eraseAll, dif_pos found]
      exact induction
  | case2 text done =>
      rw [eraseAll, dif_neg done, ← contains_iff]
      exact fun found => done ⟨nonempty, found⟩

/-- Erasing is a loop of rounds that ends with the first text in which the
pattern does not occur. -/
theorem exists_rounds (pattern text : List Char) :
    ∃ rounds ≤ text.length,
      eraseAll pattern text = (replaceAll pattern [])^[rounds] text ∧
      ∀ i < rounds, pattern <:+: (replaceAll pattern [])^[i] text := by
  induction text using eraseAll.induct pattern with
  | case1 text found shorter induction =>
      obtain ⟨rounds, bound, erased, before⟩ := induction
      refine ⟨rounds + 1, ?_, ?_, ?_⟩
      · omega
      · rw [eraseAll, dif_pos found, erased, Function.iterate_succ_apply]
      · intro i small
        cases i with
        | zero => exact contains_iff.mp found.2
        | succ i =>
            rw [Function.iterate_succ_apply]
            exact before i (by omega)
  | case2 text done =>
      refine ⟨0, Nat.zero_le _, ?_, nofun⟩
      rw [eraseAll, dif_neg done, Function.iterate_zero_apply]

/-- Whatever has been taken out, going on leads to the erased text, and nowhere
else. -/
theorem deletions_lead_to_eraseAll (nonempty : pattern ≠ [])
    (unbordered : Unbordered pattern)
    (steps : ReflTransGen (Deletion pattern) text rest) :
    ReflTransGen (Deletion pattern) rest (eraseAll pattern text) := by
  obtain ⟨last, onward, erased⟩ :=
    deletions_join unbordered steps (deletions_eraseAll pattern text)
  rwa [eq_of_deletions (not_infix_eraseAll nonempty text) erased] at onward

theorem eraseAll_of_deletions (nonempty : pattern ≠ [])
    (unbordered : Unbordered pattern)
    (steps : ReflTransGen (Deletion pattern) text rest) :
    eraseAll pattern rest = eraseAll pattern text := by
  have onward := deletions_lead_to_eraseAll nonempty unbordered
    (steps.trans (deletions_eraseAll pattern rest))
  exact (eq_of_deletions (not_infix_eraseAll nonempty rest) onward).symm

end ApiBindings.Text
