import ApiBindings.Proofs.Naming

/-!
The name that is left of a type when the signs of lists are taken away from it,
whatever text stands for the type.
-/

namespace ApiBindings.Naming

open Relation (ReflTransGen)

variable {s : String}

theorem toList_withoutContainers (s : String) :
    (withoutContainers s).toList =
      Text.eraseAll "Array<".toList (s.toList.filter (· ≠ '>')) := by
  rw [withoutContainers, String.toList_ofList]

theorem unbordered_array : Text.Unbordered "Array<".toList := by
  decide

theorem not_infix_withoutContainers (s : String) :
    ¬ "Array<".toList <:+: (withoutContainers s).toList := by
  rw [toList_withoutContainers]
  exact Text.not_infix_eraseAll (by decide) _

theorem not_mem_withoutContainers (s : String) :
    '>' ∉ (withoutContainers s).toList := by
  rw [toList_withoutContainers]
  intro member
  have kept := (Text.sublist_of_deletions (Text.deletions_eraseAll _ _)).subset member
  simp at kept

theorem filter_toList_list (element : String) :
    ("Array<" ++ element ++ ">").toList.filter (· ≠ '>') =
      "Array<".toList ++ element.toList.filter (· ≠ '>') := by
  rw [String.toList_append, String.toList_append, List.filter_append,
    List.filter_append]
  simp

theorem withoutContainers_list (element : String) :
    withoutContainers ("Array<" ++ element ++ ">") =
      withoutContainers element := by
  have step : Text.Deletion "Array<".toList
      (("Array<" ++ element ++ ">").toList.filter (· ≠ '>'))
      (element.toList.filter (· ≠ '>')) := by
    rw [filter_toList_list]
    exact .between [] _
  rw [← String.toList_inj, toList_withoutContainers, toList_withoutContainers]
  exact (Text.eraseAll_of_deletions (by decide) unbordered_array
    (.single step)).symm

/-- The rounds end, and no sign of a list is left. Closing signs apart, taking
out openings one at a time ends as well, and with the same text, whichever comes
first. Lists around a text make no difference. -/
theorem containers_leave_one_text (s : String) :
    (∃ rounds ≤ s.length,
      (withoutContainers s).toList =
        (Text.replaceAll "Array<".toList [])^[rounds]
          (s.toList.filter (· ≠ '>')) ∧
      ∀ i < rounds, "Array<".toList <:+:
        (Text.replaceAll "Array<".toList [])^[i] (s.toList.filter (· ≠ '>'))) ∧
    '>' ∉ (withoutContainers s).toList ∧
    ¬ "Array<".toList <:+: (withoutContainers s).toList ∧
    withoutContainers (withoutContainers s) = withoutContainers s ∧
    (WellFounded fun rest text => Text.Deletion "Array<".toList text rest) ∧
    (∀ rest, ReflTransGen (Text.Deletion "Array<".toList)
        (s.toList.filter (· ≠ '>')) rest →
      ReflTransGen (Text.Deletion "Array<".toList) rest
        (withoutContainers s).toList ∧
      (¬ "Array<".toList <:+: rest → rest = (withoutContainers s).toList)) ∧
    ∀ depth, withoutContainers ((fun text => "Array<" ++ text ++ ">")^[depth] s) =
      withoutContainers s := by
  have free := not_mem_withoutContainers s
  have none := not_infix_withoutContainers s
  refine ⟨?_, free, none, withoutContainers_of_free free none,
    Text.Deletion.wellFounded (by decide), ?_, ?_⟩
  · obtain ⟨rounds, bound, erased, before⟩ :=
      Text.exists_rounds "Array<".toList (s.toList.filter (· ≠ '>'))
    refine ⟨rounds, ?_, (toList_withoutContainers s).trans erased, before⟩
    rw [← String.length_toList]
    exact bound.trans (List.length_filter_le ..)
  · intro rest steps
    have onward : ReflTransGen (Text.Deletion "Array<".toList) rest
        (withoutContainers s).toList := by
      rw [toList_withoutContainers]
      exact Text.deletions_lead_to_eraseAll (by decide) unbordered_array steps
    exact ⟨onward, fun done => (Text.eq_of_deletions done onward).symm⟩
  · intro depth
    induction depth with
    | zero => rfl
    | succ depth induction =>
        rw [Function.iterate_succ_apply', withoutContainers_list, induction]

/-- The outer opening is there only after the inner one has been taken out. -/
theorem pet_is_left_of_split_openings :
    ReflTransGen (Text.Deletion "Array<".toList)
        ("ArrArray<ay<Pet>".toList.filter (· ≠ '>')) "Pet".toList ∧
      ¬ "Array<".toList <:+: "Pet".toList ∧
      "Pet".toList = (withoutContainers "ArrArray<ay<Pet>").toList := by
  have steps : ReflTransGen (Text.Deletion "Array<".toList)
      ("ArrArray<ay<Pet>".toList.filter (· ≠ '>')) "Pet".toList :=
    .head (.between "Arr".toList "ay<Pet".toList)
      (.single (.between [] "Pet".toList))
  have done : ¬ "Array<".toList <:+: "Pet".toList := by decide
  obtain ⟨_, _, _, _, _, lead, _⟩ := containers_leave_one_text "ArrArray<ay<Pet>"
  exact ⟨steps, done, (lead _ steps).2 done⟩

end ApiBindings.Naming
