import ApiBindings.Document.Verb
import Mathlib.Logic.Function.Basic

/-!
The spelling of verbs, in which the case of letters does not count.
-/

namespace ApiBindings

theorem Text.eqIgnoreCase_iff {a b : String} :
    eqIgnoreCase a b = true ↔ a.toList.map Char.toLower = b.toList.map Char.toLower := by
  rw [eqIgnoreCase, beq_iff_eq]

namespace Verb

/-- No two verbs are spelled alike. -/
theorem ofName?_name (verb : Verb) : ofName? verb.name = some verb := by
  cases verb <;> decide +kernel

theorem ofName?_eq_some {key : String} {verb : Verb} :
    ofName? key = some verb ↔ Text.eqIgnoreCase key verb.name = true := by
  constructor
  · intro found
    unfold ofName? at found
    have spelled := List.find?_some found
    exact Text.eqIgnoreCase_iff.mpr (Text.eqIgnoreCase_iff.mp spelled).symm
  · intro same
    have equal : ∀ v : Verb,
        Text.eqIgnoreCase v.name key = Text.eqIgnoreCase v.name verb.name := by
      intro v
      rw [Text.eqIgnoreCase, Text.eqIgnoreCase, Text.eqIgnoreCase_iff.mp same]
    rw [← ofName?_name verb, ofName?, ofName?]
    exact congrArg (List.find? · all) (funext equal)

theorem ofName?_of_parameters {key : String}
    (same : Text.eqIgnoreCase key "parameters" = true) : ofName? key = none := by
  cases found : ofName? key with
  | none => rfl
  | some verb =>
      have both := Text.eqIgnoreCase_iff.mp (ofName?_eq_some.mp found)
      rw [Text.eqIgnoreCase_iff.mp same] at both
      revert both
      cases verb <;> decide +kernel

def lower (verb : Verb) : List Char := verb.name.toList.map Char.toLower

theorem lower_injective : Function.Injective lower := by
  intro verb other same
  have found : ofName? verb.name = some other :=
    ofName?_eq_some.mpr (Text.eqIgnoreCase_iff.mpr same)
  exact Option.some.inj ((ofName?_name verb).symm.trans found)

theorem isLower_of_mem_lower {verb : Verb} : ∀ c ∈ verb.lower, c.isLower = true := by
  rw [← List.all_eq_true]
  cases verb <;> decide

theorem lower_ne_nil (verb : Verb) : verb.lower ≠ [] := by
  cases verb <;> decide

end Verb

end ApiBindings
