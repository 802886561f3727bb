import ApiBindings.Text.Search

/-!
Texts that are put together from parts and cut into these parts again.
-/

namespace ApiBindings.Text

variable {c sep : Char} {part text rest : List Char}
  {parts : List (List Char)} {f : Char → List Char}

theorem dropPrefix?_append (start rest : List Char) :
    dropPrefix? start (start ++ rest) = some rest := by
  induction start with
  | nil => rfl
  | cons c start induction =>
      rw [List.cons_append, dropPrefix?, if_pos rfl, induction]

theorem prefix_toList_append {start : List Char} {s : String}
    (begins : start <+: s.toList) (t : String) : start <+: (s ++ t).toList := by
  rw [String.toList_append]
  exact begins.trans (List.prefix_append _ _)

theorem eq_append_of_dropSuffix? {ending : List Char}
    (found : dropSuffix? ending text = some rest) : text = rest ++ ending := by
  obtain ⟨reversed, start, rfl⟩ := Option.map_eq_some_iff.mp found
  rw [← text.reverse_reverse, eq_append_of_dropPrefix? start,
    List.reverse_append, List.reverse_reverse]

theorem cutAt?_append (clean : sep ∉ part) :
    cutAt? sep (part ++ sep :: rest) = some (part, rest) := by
  induction part with
  | nil => rw [List.nil_append, cutAt?, if_pos rfl]
  | cons c part induction =>
      rw [List.mem_cons, not_or] at clean
      rw [List.cons_append, cutAt?, if_neg (Ne.symm clean.1),
        induction clean.2]
      rfl

theorem splitAt_eq_splitOn (sep : Char) (text : List Char) :
    splitAt sep text = text.splitOn sep := by
  induction text with
  | nil => rfl
  | cons c text induction =>
      rw [splitAt, List.splitOn_cons_eq_if_modifyHead, induction]
      by_cases here : c = sep
      · rw [if_pos here, if_pos (beq_iff_eq.mpr here)]
      · rw [if_neg here, if_neg (by simpa using here)]
        cases cut : text.splitOn sep with
        | nil => exact absurd cut (List.splitOn_ne_nil sep text)
        | cons part parts => rfl

/-- Nothing but the separators is lost. -/
theorem flatten_splitOn (sep : Char) (text : List Char) :
    (text.splitOn sep).flatten = text.filter (· ≠ sep) := by
  induction text with
  | nil => rfl
  | cons c text induction =>
      rw [List.splitOn_cons_eq_if_modifyHead]
      by_cases here : c = sep
      · simp [here, induction]
      · cases cut : text.splitOn sep with
        | nil => exact absurd cut (List.splitOn_ne_nil sep text)
        | cons part parts =>
            rw [if_neg (by simpa using here), List.modifyHead_cons,
              List.flatten_cons, List.cons_append, ← List.flatten_cons, ← cut,
              induction, List.filter_cons_of_pos (by simpa using here)]

theorem mem_of_mem_joinWith {sep : List Char} (member : c ∈ joinWith sep parts) :
    c ∈ sep ∨ ∃ part ∈ parts, c ∈ part := by
  induction parts using joinWith.induct with
  | case1 => cases member
  | case2 part => exact .inr ⟨part, .head _, member⟩
  | case3 part parts nonempty induction =>
      rw [joinWith.eq_3 _ _ _ nonempty, List.append_assoc, List.mem_append,
        List.mem_append] at member
      rcases member with here | between | later
      · exact .inr ⟨part, .head _, here⟩
      · exact .inl between
      · rcases induction later with between | ⟨other, listed, inside⟩
        · exact .inl between
        · exact .inr ⟨other, .tail _ listed, inside⟩

theorem length_le_flatMap (nonempty : ∀ c, f c ≠ []) (text : List Char) :
    text.length ≤ (text.flatMap f).length := by
  induction text with
  | nil => exact Nat.le_refl 0
  | cons c text induction =>
      have one := List.length_pos_iff.mpr (nonempty c)
      rw [List.flatMap_cons, List.length_cons, List.length_append]
      omega

theorem flatMap_eq_self_iff (longer : ∀ c, f c = [c] ∨ 1 < (f c).length) :
    text.flatMap f = text ↔ ∀ c ∈ text, f c = [c] := by
  have nonempty : ∀ c, f c ≠ [] := by
    intro c nothing
    rcases longer c with same | long
    · simp [nothing] at same
    · simp [nothing] at long
  induction text with
  | nil => simp
  | cons c text induction =>
      rw [List.forall_mem_cons, List.flatMap_cons]
      rcases longer c with same | long
      · simp [same, induction]
      · refine iff_of_false (fun kept => ?_) (fun both => ?_)
        · have rest := length_le_flatMap nonempty text
          have length := congrArg List.length kept
          rw [List.length_append, List.length_cons] at length
          omega
        · simp [both.1] at long

end ApiBindings.Text
