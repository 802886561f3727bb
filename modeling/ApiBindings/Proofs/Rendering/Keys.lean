import ApiBindings.Proofs.Naming.Identifiers
import ApiBindings.Proofs.Template.Lookup
import ApiBindings.Proofs.Text.Quoted

/-!
The two ways in which code names an argument: its key in a signature, and the
literal with which the body of a method looks it up.
-/

namespace ApiBindings.Rendering

open Naming (IsIdentifier propertyKey)

/-- The name that a key stands for: an identifier is its own name, and a
literal stands for its text. -/
def keyName? (key : String) : Option String :=
  if IsIdentifier key then some key else Text.literalText? key

theorem not_isIdentifier_quote (name : String) :
    ¬ IsIdentifier (Text.quote name) := by
  rintro ⟨c, cs, signs, start, _⟩
  obtain ⟨body, quoted, _⟩ := Text.exists_quoted_body name
  rw [quoted] at signs
  obtain rfl : c = '"' := (List.cons.inj signs).1.symm
  revert start
  decide

variable {name : String}

theorem propertyKey_of_not_isIdentifier (other : ¬ IsIdentifier name) :
    propertyKey name = Text.quote name := by
  rw [Naming.isIdentifier_iff_isBareKey] at other
  rw [propertyKey, if_neg other]

theorem keyName?_propertyKey (name : String) :
    keyName? (propertyKey name) = some name := by
  by_cases plain : IsIdentifier name
  · rw [Naming.isIdentifier_iff.mp plain, keyName?, if_pos plain]
  · rw [propertyKey_of_not_isIdentifier plain, keyName?,
      if_neg (not_isIdentifier_quote name), Text.literalText?_quote]

theorem propertyKey_injective : Function.Injective propertyKey := by
  intro name other same
  have read := keyName?_propertyKey name
  rw [same, keyName?_propertyKey, Option.some.injEq] at read
  exact read.symm

/-- A key stands for the name that it is made of, and so does the literal. Keys
are the names themselves if these are identifiers; otherwise they are quoted, and
nothing in them ends the quotation or breaks the line. What templates are given
of an argument is such a key and such a literal, and of a method the literal of its
body. -/
theorem keys_and_literals_name_alike :
    (∀ name : String,
      keyName? (propertyKey name) = some name ∧
      Text.literalText? (Text.quote name) = some name ∧
      (propertyKey name = name ↔ IsIdentifier name) ∧
      (¬ IsIdentifier name → propertyKey name = Text.quote name) ∧
      ∃ body, (Text.quote name).toList = '"' :: (body ++ ['"']) ∧
        (∀ c ∈ body, 32 ≤ c.toNat) ∧ Text.QuotesEscaped body) ∧
    Function.Injective propertyKey ∧
    (∀ a : Argument, ∃ key literal,
      (argumentValue a).field "key" = .ok (.text key) ∧
      (argumentValue a).field "name_literal" = .ok (.text literal) ∧
      keyName? key = some a.name ∧ Text.literalText? literal = some a.name) ∧
    ∀ (className : String) (m : Method), ∃ literal : Option String,
      (methodValue className m).field "body_name_literal" = .ok (.ofOption literal) ∧
      literal.map Text.literalText? =
        (m.arguments.find? (·.place = .body)).map fun a => some a.name := by
  refine ⟨fun name => ?_, propertyKey_injective, fun a => ?_, fun className m => ?_⟩
  · exact ⟨keyName?_propertyKey name, Text.literalText?_quote name,
      Naming.isIdentifier_iff.symm, propertyKey_of_not_isIdentifier,
      Text.exists_quoted_body name⟩
  · refine ⟨propertyKey a.name, Text.quote a.name, ?_, ?_,
      keyName?_propertyKey a.name, Text.literalText?_quote a.name⟩
    · rw [argumentValue, Template.Value.field_ofFields]
      rfl
    · rw [argumentValue, Template.Value.field_ofFields]
      rfl
  · refine ⟨(m.arguments.find? (·.place = .body)).map fun a => Text.quote a.name, ?_, ?_⟩
    · rw [methodValue, Template.Value.field_ofFields]
      rfl
    · simp only [Option.map_map, Function.comp_def, Text.literalText?_quote]

theorem broken_name_is_quoted :
    ¬ IsIdentifier "x-\"rate\"\n" ∧
      propertyKey "x-\"rate\"\n" = "\"x-\\\"rate\\\"\\n\"" ∧
      keyName? "\"x-\\\"rate\\\"\\n\"" = some "x-\"rate\"\n" := by
  have other : ¬ IsIdentifier "x-\"rate\"\n" := by decide
  have written : Text.quote "x-\"rate\"\n" = "\"x-\\\"rate\\\"\\n\"" := by decide
  obtain ⟨names, _, _⟩ := keys_and_literals_name_alike
  obtain ⟨named, _, _, quoted, _⟩ := names "x-\"rate\"\n"
  have key := (quoted other).trans written
  rw [key] at named
  exact ⟨other, key, named⟩

end ApiBindings.Rendering
