import ApiBindings.Proofs.Text.Casing
import ApiBindings.Text.Search
import ApiBindings.Text.Words

/-!
What stands in the words of a text and in their joining: letters and digits,
as they are or in another case.
-/

namespace ApiBindings.Text

theorem flatten_splitRuns (run cs : List Char) :
    (splitRuns run cs).flatten = run.reverse ++ cs.filter isAlphanumeric := by
  induction cs generalizing run with
  | nil => simp [splitRuns]
  | cons c cs induction =>
      rw [splitRuns]
      split
      next alphanumeric => simp [induction, alphanumeric]
      next other => simp [induction, other]

theorem flatten_splitCase (m : LetterCase) (word : List Char) {cs : List Char}
    (nonempty : cs ≠ []) :
    (splitCase m word cs).flatten = word.reverse ++ cs := by
  induction m, word, cs using splitCase.induct with
  | case1 => exact absurd rfl nonempty
  | case2 m word c => simp [splitCase]
  | case3 m word c n rest boundary induction =>
      rw [splitCase, if_pos boundary, List.flatten_cons,
        induction (List.cons_ne_nil n rest)]
      simp
  | case4 m word c n rest inner boundary induction =>
      rw [splitCase, if_neg inner, if_pos boundary, List.flatten_cons,
        induction (List.cons_ne_nil n rest)]
      simp
  | case5 m word c n rest inner last induction =>
      rw [splitCase, if_neg inner, if_neg last,
        induction (List.cons_ne_nil n rest)]
      simp

theorem flatten_words (cs : List Char) :
    (words cs).flatten = cs.filter isAlphanumeric := by
  have whole (run : List Char) : (splitCase .none [] run).flatten = run := by
    cases run with
    | nil => rfl
    | cons c run => exact flatten_splitCase .none [] (List.cons_ne_nil c run)
  calc (words cs).flatten
      = ((splitRuns [] cs).map fun run =>
          (splitCase .none [] run).flatten).flatten := by
        rw [words, List.flatMap_def, List.flatten_flatten, List.map_map]
        rfl
    _ = (splitRuns [] cs).flatten := by simp only [whole, List.map_id']
    _ = cs.filter isAlphanumeric := flatten_splitRuns [] cs

theorem mem_of_mem_words {cs w : List Char} (member : w ∈ words cs) {c : Char}
    (inside : c ∈ w) : c ∈ cs ∧ isAlphanumeric c = true := by
  rw [← List.mem_filter, ← flatten_words]
  exact List.mem_flatten_of_mem member inside

/-- A sign that is no letter or digit keeps the words beside it apart. -/
theorem words_append {sep : Char} (apart : isAlphanumeric sep = false)
    (left right : List Char) :
    words (left ++ sep :: right) = words left ++ words right := by
  have runs (run : List Char) : splitRuns run (left ++ sep :: right) =
      splitRuns run left ++ splitRuns [] right := by
    induction left generalizing run with
    | nil => simp [splitRuns, apart]
    | cons c left induction =>
        rw [List.cons_append, splitRuns, splitRuns]
        split
        · exact induction _
        · rw [induction, List.cons_append]
  rw [words, runs, List.flatMap_append, words, words]

theorem words_joinWith {sep : Char} (apart : isAlphanumeric sep = false)
    (parts : List (List Char)) :
    words (joinWith [sep] parts) = parts.flatMap words := by
  induction parts using joinWith.induct with
  | case1 => rfl
  | case2 part => simp [joinWith]
  | case3 part parts nonempty induction =>
      rw [joinWith.eq_3 _ _ _ nonempty, List.append_assoc,
        List.singleton_append, words_append apart, induction,
        List.flatMap_cons]

theorem lowerCamel_congr {cs other : List Char} (same : words cs = words other) :
    lowerCamel cs = lowerCamel other := by
  rw [lowerCamel, lowerCamel, same]

theorem brackets_of_alphanumeric {c : Char} (alphanumeric : isAlphanumeric c) :
    Outside 60 62 c := by
  by_cases ascii : isAscii c
  · rw [isAlphanumeric_of_ascii ascii] at alphanumeric
    have outside : c.isAlphanum → Outside 60 62 c :=
      ascii_of_forall (P := fun c => c.isAlphanum → Outside 60 62 c)
        (by decide +kernel) ascii
    exact outside alphanumeric
  · have beyond := le_toNat_of_not_ascii ascii
    exact .inr (by omega)

theorem brackets_lowerWord {w : List Char} (word : ∀ c ∈ w, Outside 60 62 c) :
    ∀ c ∈ lowerWord w, Outside 60 62 c := by
  induction w using lowerWord.induct with
  | case1 => simp [lowerWord]
  | case2 => simp [lowerWord]; decide
  | case3 c sigma =>
      rw [lowerWord, if_neg sigma]
      exact brackets_lowerChar (word c (.head _))
  | case4 c rest nonempty induction =>
      rw [lowerWord.eq_3 _ _ nonempty]
      intro d member
      rcases List.mem_append.mp member with first | later
      · exact brackets_lowerChar (word c (.head _)) d first
      · exact induction (fun c inside => word c (.tail _ inside)) d later

theorem brackets_lowerCamel (cs : List Char) :
    ∀ c ∈ lowerCamel cs, Outside 60 62 c := by
  have clean (w) (member : w ∈ words cs) (c) (inside : c ∈ w) :
      Outside 60 62 c :=
    brackets_of_alphanumeric (mem_of_mem_words member inside).2
  unfold lowerCamel
  split
  next => simp
  next first others split =>
    rw [split] at clean
    intro c member
    rcases List.mem_append.mp member with inFirst | inOthers
    · exact brackets_lowerWord (clean first (.head _)) c inFirst
    · obtain ⟨w, listed, inside⟩ := List.mem_flatMap.mp inOthers
      have word := clean w (.tail _ listed)
      cases w with
      | nil => simp [capitalizedWord] at inside
      | cons d rest =>
          rcases List.mem_append.mp inside with capital | small
          · exact brackets_upperChar (word d (.head _)) c capital
          · exact brackets_lowerWord
              (fun c inside => word c (.tail _ inside)) c small

theorem brackets_capitalizeFirst {cs : List Char}
    (text : ∀ c ∈ cs, Outside 60 62 c) :
    ∀ c ∈ capitalizeFirst cs, Outside 60 62 c := by
  cases cs with
  | nil => simp [capitalizeFirst]
  | cons d rest =>
      intro c member
      rcases List.mem_append.mp member with capital | later
      · exact brackets_upperChar (text d (.head _)) c capital
      · exact text c (.tail _ later)

end ApiBindings.Text
