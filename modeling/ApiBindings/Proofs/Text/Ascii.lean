import ApiBindings.Proofs.Outcome
import ApiBindings.Proofs.Text.Words

/-!
Camel case of ASCII text: the letters and digits of the text in their order,
each letter in one of its cases.
-/

namespace ApiBindings.Text

def SameLetter (c d : Char) : Prop := d = c.toLower ∨ d = c.toUpper

variable {c d : Char} {cs ds w : List Char}

theorem SameLetter.ascii (ascii : isAscii c) (same : SameLetter c d) :
    isAscii d = true := by
  have cases : isAscii c.toLower = true ∧ isAscii c.toUpper = true :=
    ascii_of_forall (P := fun c =>
      isAscii c.toLower = true ∧ isAscii c.toUpper = true)
      (by decide +kernel) ascii
  rcases same with rfl | rfl
  · exact cases.1
  · exact cases.2

theorem SameLetter.isAlphanum (ascii : isAscii c) (same : SameLetter c d) :
    d.isAlphanum = c.isAlphanum := by
  have cases : c.toLower.isAlphanum = c.isAlphanum ∧
      c.toUpper.isAlphanum = c.isAlphanum :=
    ascii_of_forall (P := fun c => c.toLower.isAlphanum = c.isAlphanum ∧
      c.toUpper.isAlphanum = c.isAlphanum) (by decide +kernel) ascii
  rcases same with rfl | rfl
  · exact cases.1
  · exact cases.2

theorem SameLetter.toUpper (ascii : isAscii c) (same : SameLetter c d) :
    d.toUpper = c.toUpper := by
  have cases : c.toLower.toUpper = c.toUpper ∧ c.toUpper.toUpper = c.toUpper :=
    ascii_of_forall (P := fun c =>
      c.toLower.toUpper = c.toUpper ∧ c.toUpper.toUpper = c.toUpper)
      (by decide +kernel) ascii
  rcases same with rfl | rfl
  · exact cases.1
  · exact cases.2

theorem lowerWord_of_ascii (ascii : ∀ c ∈ w, isAscii c = true) :
    lowerWord w = w.map Char.toLower := by
  induction w using lowerWord.induct with
  | case1 => rfl
  | case2 => exact absurd (ascii 'Σ' List.mem_cons_self) (by decide)
  | case3 c sigma =>
      rw [lowerWord, if_neg sigma, lowerChar_of_ascii (ascii c List.mem_cons_self)]
      rfl
  | case4 c rest nonempty induction =>
      rw [List.forall_mem_cons] at ascii
      rw [lowerWord.eq_3 _ _ nonempty, lowerChar_of_ascii ascii.1,
        induction ascii.2, List.map_cons, List.singleton_append]

theorem forall₂_lowerWord (ascii : ∀ c ∈ w, isAscii c = true) :
    List.Forall₂ SameLetter w (lowerWord w) := by
  rw [lowerWord_of_ascii ascii, List.forall₂_map_right_iff, List.forall₂_same]
  exact fun c _ => .inl rfl

theorem forall₂_capitalizedWord (ascii : ∀ c ∈ w, isAscii c = true) :
    List.Forall₂ SameLetter w (capitalizedWord w) := by
  cases w with
  | nil => exact .nil
  | cons c rest =>
      rw [List.forall_mem_cons] at ascii
      rw [capitalizedWord, upperChar_of_ascii ascii.1, List.singleton_append]
      exact .cons (.inr rfl) (forall₂_lowerWord ascii.2)

theorem forall₂_lowerCamel (ascii : ∀ c ∈ cs, isAscii c = true) :
    List.Forall₂ SameLetter (cs.filter Char.isAlphanum) (lowerCamel cs) := by
  have letters : cs.filter Char.isAlphanum = (words cs).flatten := by
    rw [flatten_words]
    exact List.filter_congr fun c member =>
      (isAlphanumeric_of_ascii (ascii c member)).symm
  have clean (w) (member : w ∈ words cs) : ∀ c ∈ w, isAscii c = true :=
    fun c inside => ascii c (mem_of_mem_words member inside).1
  rw [letters, lowerCamel]
  cases split : words cs with
  | nil => exact .nil
  | cons first others =>
      rw [split, List.forall_mem_cons] at clean
      rw [List.flatten_cons]
      change List.Forall₂ SameLetter _
        (lowerWord first ++ (others.map capitalizedWord).flatten)
      refine List.rel_append (forall₂_lowerWord clean.1) (List.rel_flatten ?_)
      rw [List.forall₂_map_right_iff, List.forall₂_same]
      exact fun w member => forall₂_capitalizedWord (clean.2 w member)

/-- A capital in front is the capital of the first letter, whatever its case. -/
theorem capitalizeFirst_of_forall₂ (ascii : ∀ c ∈ cs, isAscii c = true)
    (same : List.Forall₂ SameLetter cs ds) :
    List.Forall₂ SameLetter cs (capitalizeFirst ds) ∧
      (capitalizeFirst ds).head? = cs.head?.map Char.toUpper := by
  cases same with
  | nil => exact ⟨.nil, rfl⟩
  | cons first rest =>
      have here := ascii _ List.mem_cons_self
      rw [capitalizeFirst, upperChar_of_ascii (first.ascii here),
        first.toUpper here]
      exact ⟨.cons (.inr rfl) rest, rfl⟩

theorem ascii_capitalizeFirst (ascii : ∀ c ∈ cs, isAscii c = true) :
    ∀ c ∈ capitalizeFirst cs, isAscii c = true := by
  cases cs with
  | nil => exact ascii
  | cons c rest =>
      rw [List.forall_mem_cons] at ascii
      rw [capitalizeFirst, upperChar_of_ascii ascii.1, List.singleton_append,
        List.forall_mem_cons]
      exact ⟨SameLetter.ascii ascii.1 (.inr rfl), ascii.2⟩

theorem head?_capitalizeFirst_lowerCamel (ascii : ∀ c ∈ cs, isAscii c = true) :
    (capitalizeFirst (lowerCamel cs)).head? =
      (cs.find? Char.isAlphanum).map Char.toUpper := by
  rw [← List.head?_filter]
  exact (capitalizeFirst_of_forall₂
    (fun c member => ascii c (List.mem_of_mem_filter member))
    (forall₂_lowerCamel ascii)).2

theorem alphanum_capitalizeFirst_lowerCamel
    (ascii : ∀ c ∈ cs, isAscii c = true) :
    ∀ d ∈ capitalizeFirst (lowerCamel cs), d.isAlphanum = true := by
  have letters (c) (member : c ∈ cs.filter Char.isAlphanum) :
      isAscii c = true ∧ c.isAlphanum = true :=
    ⟨ascii c (List.mem_of_mem_filter member), List.of_mem_filter member⟩
  have same := (capitalizeFirst_of_forall₂ (fun c member => (letters c member).1)
    (forall₂_lowerCamel ascii)).1
  have listed := (List.forall₂_and_left _ _).mpr ⟨letters, same⟩
  intro d member
  obtain ⟨c, _, letter, kept⟩ := exists_of_mem_right listed member
  rw [kept.isAlphanum letter.1, letter.2]

end ApiBindings.Text
