import ApiBindings.Naming
import ApiBindings.Proofs.Text.Cutting
import ApiBindings.Proofs.Text.Deletion
import ApiBindings.Proofs.Text.Words

/-!
The name of a defined type is never mistaken for a list type or for a type
that need not be imported.
-/

namespace ApiBindings.Naming

theorem brackets_typeName (raw : String) :
    ∀ c ∈ (typeName raw).toList, Text.Outside 60 62 c := by
  rw [typeName, String.toList_ofList]
  exact Text.brackets_capitalizeFirst (Text.brackets_lowerCamel _)

theorem not_mem_typeName_of_bracket {c : Char} (bracket : ¬ Text.Outside 60 62 c)
    (raw : String) : c ∉ (typeName raw).toList := by
  intro member
  exact bracket (brackets_typeName raw c member)

theorem not_infix_array_typeName (raw : String) :
    ¬ "Array<".toList <:+: (typeName raw).toList := by
  intro found
  have member := found.subset (show '<' ∈ "Array<".toList by decide)
  exact not_mem_typeName_of_bracket (by decide) raw member

theorem withoutContainers_of_free {name : String} (free : '>' ∉ name.toList)
    (none : ¬ "Array<".toList <:+: name.toList) :
    withoutContainers name = name := by
  rw [withoutContainers, Text.filter_ne_of_not_mem free,
    Text.eraseAll_of_not_infix none, String.ofList_toList]

theorem withoutContainers_typeName (raw : String) :
    withoutContainers (typeName raw) = typeName raw :=
  withoutContainers_of_free (not_mem_typeName_of_bracket (by decide) raw)
    (not_infix_array_typeName raw)

/-- Built-in types start with a small letter, type names with a capital. -/
theorem not_mem_builtinTypes_typeName (raw : String) :
    typeName raw ∉ builtinTypes := by
  intro listed
  have small : ∀ name ∈ builtinTypes, name.toList.head?.any
      (fun c => decide (¬ Text.Outside 97 122 c)) = true := by
    decide
  obtain ⟨c, first, letter⟩ := (Option.any_eq_true _ _).mp (small _ listed)
  rw [typeName, String.toList_ofList] at first
  generalize Text.lowerCamel (raw.toList.map identifierChar) = cs at first
  cases cs with
  | nil => simp [Text.capitalizeFirst] at first
  | cons d rest =>
      obtain ⟨u, us, upper⟩ :=
        List.exists_cons_of_ne_nil (Text.upperChar_ne_nil d)
      have capital := Text.capital_upperChar d u (by simp [upper])
      obtain rfl : u = c := by
        simpa [Text.capitalizeFirst, upper] using first
      exact of_decide_eq_true letter capital

theorem not_builtin_typeName (raw : String) :
    isBuiltinType (typeName raw) = false := by
  rw [Bool.eq_false_iff]
  intro builtin
  exact not_mem_builtinTypes_typeName raw (List.contains_iff_mem.mp builtin)

theorem escapeChar_ne_nil (c : Char) : Text.escapeChar c ≠ [] := by
  fun_cases Text.escapeChar c <;> simp

theorem propertyKey_eq_self {name : String} :
    propertyKey name = name ↔ isBareKey name.toList = true := by
  unfold propertyKey
  cases isBareKey name.toList with
  | true => simp
  | false =>
      rw [if_neg Bool.false_ne_true]
      refine iff_of_false (fun same => ?_) Bool.false_ne_true
      have length := congrArg (·.toList.length) same
      have longer := Text.length_le_flatMap escapeChar_ne_nil name.toList
      simp only [Text.quote, Text.quoteChars, String.toList_ofList,
        List.length_cons, List.length_append, List.length_nil] at length
      omega

end ApiBindings.Naming
