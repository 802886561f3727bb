import ApiBindings.Document.Reference
import ApiBindings.Proofs.Outcome
import ApiBindings.Proofs.Tables
import ApiBindings.Proofs.Text.Cutting

/-!
References that are pointers into a table. What follows the name of the table
is taken as it stands: signs that a pointer writes differently are not read
back.
-/

namespace ApiBindings

def pointerChar (c : Char) : List Char :=
  if c = '~' then ['~', '0'] else if c = '/' then ['~', '1'] else [c]

def pointerPart (name : String) : String :=
  String.ofList (name.toList.flatMap pointerChar)

def definitionPointer (name : String) : String :=
  "#/definitions/" ++ pointerPart name

variable {table name path : String} {c d : Char} {cs rest rest' : List Char}

theorem pointerChar_eq_or_longer (c : Char) :
    pointerChar c = [c] ∨ 1 < (pointerChar c).length := by
  fun_cases pointerChar c
  case case1 => exact .inr (by decide)
  case case2 => exact .inr (by decide)
  case case3 => exact .inl rfl

theorem pointerChar_eq_singleton_iff :
    pointerChar c = [c] ↔ c ≠ '~' ∧ c ≠ '/' := by
  fun_cases pointerChar c
  case case1 tilde => simp [tilde]
  case case2 slash => simp [slash]
  case case3 tilde slash => simp [tilde, slash]

theorem pointerChar_append_inj
    (same : pointerChar c ++ rest = pointerChar d ++ rest') :
    c = d ∧ rest = rest' := by
  unfold pointerChar at same
  grind

theorem flatMap_pointerChar_eq_nil : cs.flatMap pointerChar = [] ↔ cs = [] := by
  cases cs with
  | nil => simp
  | cons c cs =>
      have nonempty : pointerChar c ≠ [] := by
        fun_cases pointerChar c <;> simp
      simp [nonempty]

theorem flatMap_pointerChar_injective :
    Function.Injective (List.flatMap pointerChar) := by
  intro cs ds same
  induction cs generalizing ds with
  | nil => exact (flatMap_pointerChar_eq_nil.mp same.symm).symm
  | cons c cs induction =>
      cases ds with
      | nil => exact flatMap_pointerChar_eq_nil.mp same
      | cons d ds =>
          rw [List.flatMap_cons, List.flatMap_cons] at same
          obtain ⟨rfl, rest⟩ := pointerChar_append_inj same
          rw [induction rest]

theorem pointerPart_eq_self_iff :
    pointerPart name = name ↔ '~' ∉ name.toList ∧ '/' ∉ name.toList := by
  rw [pointerPart, ← String.toList_inj, String.toList_ofList,
    Text.flatMap_eq_self_iff pointerChar_eq_or_longer]
  simp only [pointerChar_eq_singleton_iff]
  constructor
  · intro plain
    exact ⟨fun tilde => (plain _ tilde).1 rfl, fun slash => (plain _ slash).2 rfl⟩
  · rintro ⟨tilde, slash⟩ c member
    exact ⟨fun same => tilde (same ▸ member), fun same => slash (same ▸ member)⟩

theorem pointerPart_ne_empty (named : name ≠ "") : pointerPart name ≠ "" := by
  intro empty
  rw [pointerPart, ← String.toList_inj, String.toList_ofList] at empty
  exact named (String.toList_inj.mp (flatMap_pointerChar_eq_nil.mp empty))

theorem definitionPointer_injective : Function.Injective definitionPointer := by
  intro name other same
  have parts : (pointerPart name).toList = (pointerPart other).toList := by
    have signs := congrArg String.toList same
    simpa [definitionPointer] using signs
  rw [pointerPart, pointerPart, String.toList_ofList, String.toList_ofList] at parts
  exact String.toList_inj.mp (flatMap_pointerChar_injective parts)

/-- Whatever follows the name of the table is read as a name. -/
theorem referenceName_pointer (clean : '/' ∉ table.toList) (named : name ≠ "") :
    referenceName ("#/" ++ table ++ "/" ++ name) table = .ok name := by
  have signs : ("#/" ++ table ++ "/" ++ name).toList =
      ['#', '/'] ++ (table.toList ++ '/' :: name.toList) := by
    simp
  have cut : (Text.dropPrefix? ['#', '/']
      ("#/" ++ table ++ "/" ++ name).toList).bind (Text.cutAt? '/') =
        some (table.toList, name.toList) := by
    rw [signs, Text.dropPrefix?_append, Option.bind_some,
      Text.cutAt?_append clean]
  have marked : ("#/" ++ table ++ "/" ++ name).toList.contains '#' = true := by
    rw [signs]
    rfl
  have given : name.toList.isEmpty = false := by
    simpa using named
  unfold referenceName
  simp only [cut, marked, given, Bool.not_true, Bool.and_false,
    Bool.false_eq_true, if_false, String.ofList_toList, ne_eq,
    not_true_eq_false]

namespace Document

theorem lookup_of_name {α : Type} {entries : OrderedMap String α}
    (named : referenceName path table = .ok name) :
    lookup entries table path =
      (entries.get? name).elim (.error (.notFound path))
        fun a => .ok (name, a) := by
  unfold lookup
  rw [named, Outcome.ok_bind]
  cases entries.get? name <;> rfl

variable {doc : Document} {s : Schema}

theorem definition_of_name (named : name ≠ "") :
    doc.definition ("#/definitions/" ++ name) =
      (doc.definitions.get? name).elim
        (.error (.notFound ("#/definitions/" ++ name)))
        fun s => .ok (name, s) := by
  have read : referenceName ("#/" ++ "definitions" ++ "/" ++ name)
      "definitions" = .ok name :=
    referenceName_pointer (by decide) named
  exact lookup_of_name read

/-- A definition is found by the pointer to it just if the pointer writes no
sign of its name differently. -/
theorem definition_pointers_resolve_iff (doc : Document) :
    Function.Injective definitionPointer ∧
    ∀ name : String, name ≠ "" →
      doc.definition (definitionPointer name) =
        (doc.definitions.get? (pointerPart name)).elim
          (.error (.notFound (definitionPointer name)))
          (fun s => .ok (pointerPart name, s)) ∧
      ∀ s, doc.definitions.get? name = some s →
        doc.definition ("#/definitions/" ++ name) = .ok (name, s) ∧
        (doc.definition (definitionPointer name) = .ok (name, s) ↔
          '~' ∉ name.toList ∧ '/' ∉ name.toList) := by
  refine ⟨definitionPointer_injective, fun name named => ?_⟩
  refine ⟨definition_of_name (pointerPart_ne_empty named), fun s entry => ?_⟩
  have plain : doc.definition ("#/definitions/" ++ name) = .ok (name, s) := by
    rw [definition_of_name named, entry, Option.elim_some]
  refine ⟨plain, ?_⟩
  rw [← pointerPart_eq_self_iff, definitionPointer]
  constructor
  · intro resolved
    rw [definition_of_name (pointerPart_ne_empty named)] at resolved
    cases looked : doc.definitions.get? (pointerPart name) with
    | none => simp [looked] at resolved
    | some found =>
        rw [looked, Option.elim_some, Except.ok.injEq, Prod.mk.injEq] at resolved
        exact resolved.1
  · intro same
    rw [same]
    exact plain

def kennels (name : String) : Document :=
  { version := supportedVersion
    info := { title := "Kennels", version := "1" }
    definitions := ⟨[(name, .inline { type := some .string })], by simp⟩ }

theorem kennels_find_a_big_dog :
    "big dog#2" ≠ "" ∧
      definitionPointer "big dog#2" = "#/definitions/big dog#2" ∧
      (kennels "big dog#2").definition "#/definitions/big dog#2" =
        .ok ("big dog#2", .inline { type := some .string }) := by
  have named : "big dog#2" ≠ "" := by decide
  have pointer : definitionPointer "big dog#2" = "#/definitions/big dog#2" := by
    decide
  obtain ⟨_, resolve⟩ := definition_pointers_resolve_iff (kennels "big dog#2")
  obtain ⟨_, found⟩ := resolve "big dog#2" named
  have entry : (kennels "big dog#2").definitions.get? "big dog#2" =
      some (.inline { type := some .string }) := rfl
  refine ⟨named, pointer, ?_⟩
  rw [← pointer, (found _ entry).2]
  decide

/-- The slash of the name is looked for as the two signs that stand for it. -/
theorem kennels_miss_a_small_dog :
    "dogs/small" ≠ "" ∧
      definitionPointer "dogs/small" = "#/definitions/dogs~1small" ∧
      (kennels "dogs/small").definitions.get? "dogs/small" =
        some (.inline { type := some .string }) ∧
      (kennels "dogs/small").definition "#/definitions/dogs~1small" =
        .error (.notFound "#/definitions/dogs~1small") := by
  exact ⟨by decide, by decide, rfl, rfl⟩

end Document

end ApiBindings
