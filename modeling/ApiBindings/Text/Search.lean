/-!
Finding, replacing and cutting at a fixed text.
-/

namespace ApiBindings.Text

def dropPrefix? : List Char → List Char → Option (List Char)
  | [], text => some text
  | _ :: _, [] => none
  | s :: start, c :: text => if s = c then dropPrefix? start text else none

def dropSuffix? (ending text : List Char) : Option (List Char) :=
  (dropPrefix? ending.reverse text.reverse).map List.reverse

theorem eq_append_of_dropPrefix? {start text rest : List Char}
    (h : dropPrefix? start text = some rest) : text = start ++ rest := by
  induction start generalizing text with
  | nil => simpa [dropPrefix?] using h
  | cons s start ih =>
    cases text with
    | nil => simp [dropPrefix?] at h
    | cons c text =>
      by_cases hc : s = c
      · rw [dropPrefix?, if_pos hc] at h
        simp [hc, ih h]
      · simp [dropPrefix?, hc] at h

/-- Replaces the occurrences of `pattern` from the left, none of which overlap. The first argument
counts the characters of an occurrence that are still to be passed over. -/
def replaceFrom (pattern new : List Char) : Nat → List Char → List Char
  | _, [] => []
  | skip + 1, _ :: text => replaceFrom pattern new skip text
  | 0, c :: text =>
    if pattern.isPrefixOf (c :: text) then
      new ++ replaceFrom pattern new (pattern.length - 1) text
    else
      c :: replaceFrom pattern new 0 text

/-- For a pattern that is not empty. -/
def replaceAll (pattern new text : List Char) : List Char := replaceFrom pattern new 0 text

def contains (pattern : List Char) : List Char → Bool
  | [] => pattern.isEmpty
  | c :: text => pattern.isPrefixOf (c :: text) || contains pattern text

theorem length_erase_le (pattern text : List Char) (skip : Nat) :
    (replaceFrom pattern [] skip text).length ≤ text.length := by
  induction text generalizing skip with
  | nil => simp [replaceFrom]
  | cons c text ih =>
    cases skip with
    | zero =>
      rw [replaceFrom]
      split
      · exact Nat.le_succ_of_le (ih _)
      · exact Nat.succ_le_succ (ih _)
    | succ skip => exact Nat.le_succ_of_le (ih _)

theorem length_erase_lt {pattern text : List Char} (hpattern : pattern ≠ [])
    (h : contains pattern text) : (replaceAll pattern [] text).length < text.length := by
  induction text with
  | nil => simp [contains, hpattern] at h
  | cons c text ih =>
    rw [replaceAll, replaceFrom]
    by_cases hprefix : pattern.isPrefixOf (c :: text)
    · rw [if_pos hprefix]
      exact Nat.lt_succ_of_le (length_erase_le _ _ _)
    · rw [if_neg hprefix]
      have hrest : contains pattern text := by simpa [contains, hprefix] using h
      exact Nat.succ_lt_succ (ih hrest)

def eraseAll (pattern : List Char) (text : List Char) : List Char :=
  if h : pattern ≠ [] ∧ contains pattern text then
    have := length_erase_lt h.1 h.2
    eraseAll pattern (replaceAll pattern [] text)
  else text
termination_by text.length

/-- The parts between the occurrences of a character; there is always one. -/
def splitAt (sep : Char) : List Char → List (List Char)
  | [] => [[]]
  | c :: text =>
    if c = sep then [] :: splitAt sep text
    else
      match splitAt sep text with
      | [] => [[c]]
      | part :: parts => (c :: part) :: parts

def cutAt? (sep : Char) : List Char → Option (List Char × List Char)
  | [] => none
  | c :: text =>
    if c = sep then some ([], text) else (cutAt? sep text).map fun (a, b) => (c :: a, b)

theorem eq_append_of_cutAt? {sep : Char} {text a b : List Char}
    (h : cutAt? sep text = some (a, b)) : text = a ++ sep :: b := by
  induction text generalizing a with
  | nil => simp [cutAt?] at h
  | cons c text ih =>
    by_cases hc : c = sep
    · simp only [cutAt?, if_pos hc, Option.some.injEq, Prod.mk.injEq] at h
      simp [← h.1, ← h.2, hc]
    · simp only [cutAt?, if_neg hc, Option.map_eq_some_iff, Prod.exists, Prod.mk.injEq] at h
      obtain ⟨a', b', hcut, rfl, rfl⟩ := h
      simp [ih hcut]

def joinWith (sep : List Char) : List (List Char) → List Char
  | [] => []
  | [part] => part
  | part :: parts => part ++ sep ++ joinWith sep parts

/-- Equality up to the case of ASCII letters. -/
def eqIgnoreCase (a b : String) : Bool :=
  a.toList.map Char.toLower == b.toList.map Char.toLower

end ApiBindings.Text
