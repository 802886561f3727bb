import ApiBindings.Text.Casing

/-!
Which characters a change of case can give. The tables are searched once, by
evaluation; everything else is a matter of the 128 ASCII characters.
-/

namespace ApiBindings.Text

def Outside (low high : Nat) (c : Char) : Prop :=
  c.toNat < low ∨ high < c.toNat

instance (low high : Nat) (c : Char) : Decidable (Outside low high c) :=
  inferInstanceAs (Decidable (_ ∨ _))

theorem ascii_of_forall {P : Char → Prop}
    (small : ∀ n < 128, P (Char.ofNat n)) {c : Char} (ascii : isAscii c) :
    P c := by
  have bound : c.toNat < 128 := by simpa [isAscii] using ascii
  have holds := small c.toNat bound
  rwa [Char.ofNat_toNat] at holds

theorem le_toNat_of_not_ascii {c : Char} (ascii : ¬ isAscii c) :
    128 ≤ c.toNat := by
  simpa [isAscii] using ascii

/-- A number that stands for no character gives the character zero. -/
theorem toNat_ofNat_or (n : Nat) :
    (Char.ofNat n).toNat = n ∨ (Char.ofNat n).toNat = 0 := by
  unfold Char.ofNat
  by_cases valid : n.isValidChar
  · rw [dif_pos valid]
    exact .inl rfl
  · rw [dif_neg valid]
    exact .inr rfl

/-- A table gives no character from `low` to `high`. -/
def tableOutside (low high : Nat) (long : Array (Nat × List Nat))
    (short : Array (Stride × Int)) : Bool :=
  (long.toList.all fun e =>
    e.2.all fun n => decide (Outside low high (Char.ofNat n))) &&
  short.toList.all fun e =>
    decide ((high : Int) < e.1.first + e.2 ∨ e.1.last + e.2 < low)

theorem outside_mapCase {low high : Nat} {long : Array (Nat × List Nat)}
    {short : Array (Stride × Int)} {c : Char} (positive : 0 < low)
    (free : tableOutside low high long short) (self : Outside low high c) :
    ∀ d ∈ mapCase long short c, Outside low high d := by
  simp only [tableOutside, Bool.and_eq_true, List.all_eq_true,
    Array.mem_toList_iff, decide_eq_true_eq] at free
  obtain ⟨longFree, shortFree⟩ := free
  intro d member
  unfold mapCase at member
  split at member
  next found =>
    obtain ⟨n, listed, rfl⟩ := List.mem_map.mp member
    exact longFree _ (Array.mem_of_find?_eq_some found) n listed
  next =>
    split at member
    next stride shift found =>
      obtain rfl := List.mem_singleton.mp member
      have holds := Array.find?_some found
      have range : (high : Int) < stride.first + shift ∨
          stride.last + shift < low :=
        shortFree _ (Array.mem_of_find?_eq_some found)
      simp only [Stride.holds, Bool.and_eq_true, decide_eq_true_eq] at holds
      unfold Outside
      rcases toNat_ofNat_or (c.toNat + shift).toNat with number | number
      · omega
      · omega
    next =>
      obtain rfl := List.mem_singleton.mp member
      exact self

theorem brackets_lowerChar {c : Char} (self : Outside 60 62 c) :
    ∀ d ∈ lowerChar c, Outside 60 62 d := by
  unfold lowerChar
  split
  next ascii =>
    have keeps : Outside 60 62 c → Outside 60 62 c.toLower :=
      ascii_of_forall (P := fun c => Outside 60 62 c → Outside 60 62 c.toLower)
        (by decide +kernel) ascii
    simpa using keeps self
  next => exact outside_mapCase (by decide) (by decide +kernel) self

theorem brackets_upperChar {c : Char} (self : Outside 60 62 c) :
    ∀ d ∈ upperChar c, Outside 60 62 d := by
  unfold upperChar
  split
  next ascii =>
    have keeps : Outside 60 62 c → Outside 60 62 c.toUpper :=
      ascii_of_forall (P := fun c => Outside 60 62 c → Outside 60 62 c.toUpper)
        (by decide +kernel) ascii
    simpa using keeps self
  next => exact outside_mapCase (by decide) (by decide +kernel) self

theorem capital_upperChar (c : Char) :
    ∀ d ∈ upperChar c, Outside 97 122 d := by
  unfold upperChar
  split
  next ascii =>
    have capital : Outside 97 122 c.toUpper :=
      ascii_of_forall (P := fun c => Outside 97 122 c.toUpper)
        (by decide +kernel) ascii
    simpa using capital
  next ascii =>
    have beyond := le_toNat_of_not_ascii ascii
    exact outside_mapCase (by decide) (by decide +kernel)
      (.inr (by omega))

theorem upperChar_ne_nil (c : Char) : upperChar c ≠ [] := by
  unfold upperChar
  split
  · exact List.cons_ne_nil _ _
  · unfold mapCase
    split
    next found =>
      have filled : CaseTable.toUpperLong.toList.all
          fun e => !e.2.isEmpty := by decide +kernel
      have entry := List.all_eq_true.mp filled _
        (Array.mem_toList_iff.mpr (Array.mem_of_find?_eq_some found))
      simpa using entry
    next => split <;> exact List.cons_ne_nil _ _

end ApiBindings.Text
