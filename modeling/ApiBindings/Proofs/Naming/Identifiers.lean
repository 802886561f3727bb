import ApiBindings.Proofs.Naming
import ApiBindings.Proofs.Text.Ascii

/-!
Names that can stand in code without quotes, and the texts of a document that
are made into such names.
-/

namespace ApiBindings.Naming

def SpelledWith (signs : List Char) (text : String) : Prop :=
  ∃ c cs, text.toList = c :: cs ∧ (c.isAlpha = true ∨ c ∈ signs) ∧
    ∀ d ∈ cs, d.isAlphanum = true ∨ d ∈ signs

def IsIdentifier (name : String) : Prop := SpelledWith ['_', '$'] name

def LeadsWithLetter (text : String) : Prop :=
  ∃ c, text.toList.find? Char.isAlphanum = some c ∧ c.isAlpha = true

variable {c : Char} {cs : List Char} {name raw : String}

theorem isKeyChar_of_isKeyStart (start : isKeyStart c = true) :
    isKeyChar c = true := by
  simp only [isKeyStart, isKeyChar, Char.isAlphanum, Bool.or_eq_true] at start ⊢
  tauto

theorem isIdentifier_iff_isBareKey :
    IsIdentifier name ↔ isBareKey name.toList = true := by
  have spelled : IsIdentifier name ↔ ∃ c cs, name.toList = c :: cs ∧
      isKeyStart c = true ∧ ∀ d ∈ cs, isKeyChar d = true := by
    simp [IsIdentifier, SpelledWith, isKeyStart, isKeyChar, or_assoc]
  rw [spelled, isBareKey, Bool.and_eq_true, List.all_eq_true]
  cases name.toList with
  | nil => simp
  | cons c cs =>
      rw [List.forall_mem_cons]
      constructor
      · rintro ⟨_, _, ⟨⟩, start, rest⟩
        exact ⟨start, isKeyChar_of_isKeyStart start, rest⟩
      · rintro ⟨start, _, rest⟩
        exact ⟨c, cs, rfl, start, rest⟩

theorem isIdentifier_iff : IsIdentifier name ↔ propertyKey name = name :=
  isIdentifier_iff_isBareKey.trans propertyKey_eq_self.symm

instance : Decidable (IsIdentifier name) :=
  decidable_of_iff _ isIdentifier_iff_isBareKey.symm

/-- An underscore stands for each of the four signs that are replaced. -/
theorem identifierChar_or_mem_iff (p : Char → Prop) (c : Char) :
    p (identifierChar c) ∨ identifierChar c ∈ ['_', '$'] ↔
      p c ∨ c ∈ ['_', '$', '.', '-', '\x7b', '\x7d'] := by
  unfold identifierChar
  split
  next replaced => simp [replaced]
  next kept => simp [not_or.mp kept]

theorem isIdentifier_identifier :
    IsIdentifier (identifier raw) ↔
      SpelledWith ['_', '$', '.', '-', '\x7b', '\x7d'] raw := by
  unfold IsIdentifier SpelledWith
  rw [identifier, String.toList_ofList]
  cases raw.toList with
  | nil => simp
  | cons c cs =>
      have first := identifierChar_or_mem_iff (·.isAlpha = true) c
      have others := identifierChar_or_mem_iff (·.isAlphanum = true)
      constructor
      · rintro ⟨_, _, ⟨⟩, start, rest⟩
        refine ⟨c, cs, rfl, first.mp start, fun d member => ?_⟩
        exact (others d).mp (rest _ (List.mem_map_of_mem member))
      · rintro ⟨_, _, ⟨⟩, start, rest⟩
        refine ⟨_, _, rfl, first.mpr start, ?_⟩
        rw [List.forall_mem_map]
        exact fun d member => (others d).mpr (rest d member)

theorem identifierChar_cases (c : Char) :
    identifierChar c = c ∨ identifierChar c = '_' ∧ c.isAlphanum = false := by
  unfold identifierChar
  split
  next replaced => rcases replaced with rfl | rfl | rfl | rfl <;> decide
  next => exact .inl rfl

theorem find?_map_identifierChar (cs : List Char) :
    (cs.map identifierChar).find? Char.isAlphanum =
      cs.find? Char.isAlphanum := by
  induction cs with
  | nil => rfl
  | cons c cs induction =>
      rw [List.map_cons, List.find?_cons, List.find?_cons, induction]
      rcases identifierChar_cases c with kept | ⟨replaced, other⟩
      · rw [kept]
      · rw [replaced, other]
        rfl

theorem ascii_map_identifierChar (ascii : ∀ c ∈ cs, Text.isAscii c = true) :
    ∀ c ∈ cs.map identifierChar, Text.isAscii c = true := by
  rw [List.forall_mem_map]
  intro c member
  rcases identifierChar_cases c with kept | ⟨replaced, _⟩
  · rw [kept]
    exact ascii c member
  · rw [replaced]
    rfl

theorem isIdentifier_of_alphanum (alphanumeric : ∀ c ∈ cs, c.isAlphanum = true) :
    IsIdentifier (String.ofList cs) ↔ cs.head?.any Char.isAlpha = true := by
  unfold IsIdentifier SpelledWith
  rw [String.toList_ofList]
  cases cs with
  | nil => simp
  | cons c cs =>
      rw [List.forall_mem_cons] at alphanumeric
      have other : c ∉ ['_', '$'] := by
        intro sign
        rcases List.mem_pair.mp sign with rfl | rfl
        · exact absurd alphanumeric.1 (by decide)
        · exact absurd alphanumeric.1 (by decide)
      constructor
      · rintro ⟨_, _, ⟨⟩, start, _⟩
        simpa using start.resolve_right other
      · intro start
        exact ⟨c, cs, rfl, .inl (by simpa using start),
          fun d member => .inl (alphanumeric.2 d member)⟩

theorem isIdentifier_typeName (ascii : ∀ c ∈ raw.toList, Text.isAscii c = true) :
    IsIdentifier (typeName raw) ↔ LeadsWithLetter raw := by
  have clean := ascii_map_identifierChar ascii
  rw [typeName, isIdentifier_of_alphanum
      (Text.alphanum_capitalizeFirst_lowerCamel clean),
    Text.head?_capitalizeFirst_lowerCamel clean, find?_map_identifierChar,
    LeadsWithLetter]
  cases found : raw.toList.find? Char.isAlphanum with
  | none => simp
  | some c =>
      have here := ascii c (List.mem_of_find?_eq_some found)
      have letter : c.toUpper.isAlpha = c.isAlpha :=
        Text.ascii_of_forall (P := fun c => c.toUpper.isAlpha = c.isAlpha)
          (by decide +kernel) here
      simp [letter]

end ApiBindings.Naming
