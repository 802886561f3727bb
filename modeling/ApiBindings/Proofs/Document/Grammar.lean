import ApiBindings.Proofs.Document.Reference

/-!
The two forms of a reference into a table: a name that stands alone, and a
pointer to the table with a name behind it. No other text is read.
-/

namespace ApiBindings

def tablePointer (table name : String) : String := "#/" ++ table ++ "/" ++ name

inductive RefersTo (table : String) : String → String → Prop
  | alone {name : String} (given : name ≠ "") (slashless : '/' ∉ name.toList)
      (hashless : '#' ∉ name.toList) : RefersTo table name name
  | pointer {name : String} (given : name ≠ "") :
      RefersTo table (tablePointer table name) name

def ReferenceError.IsFormat (path : String) (e : ReferenceError) : Prop :=
  e = .invalid path ∨ ∃ expected found, e = .otherSection expected found path

variable {table path other name : String} {e : ReferenceError}

theorem ReferenceError.IsFormat.message (format : e.IsFormat path) :
    "invalid reference format: ".toList <+: e.message.toList := by
  rcases format with rfl | ⟨expected, found, rfl⟩
  · unfold ReferenceError.message
    exact Text.prefix_toList_append List.prefix_rfl _
  · have start : "invalid reference format: ".toList <+:
        "invalid reference format: expected section '".toList := by decide
    unfold ReferenceError.message
    simp only [String.append_assoc]
    exact Text.prefix_toList_append start _

theorem toList_tablePointer (table name : String) :
    (tablePointer table name).toList =
      ['#', '/'] ++ (table.toList ++ '/' :: name.toList) := by
  simp [tablePointer]

theorem referenceName_alone (given : name ≠ "") (slashless : '/' ∉ name.toList)
    (hashless : '#' ∉ name.toList) : referenceName name table = .ok name := by
  simp [referenceName, given, slashless, hashless]

theorem referenceName_elsewhere (clean : '/' ∉ table.toList)
    (apart : table ≠ other) :
    referenceName (tablePointer table name) other =
      .error (.otherSection other table (tablePointer table name)) := by
  simp [referenceName, toList_tablePointer, Text.dropPrefix?,
    Text.cutAt?_append clean, apart]

/-- Each early exit is an error of the format. -/
theorem referenceName_cases (table path : String) :
    (∃ e, referenceName path table = .error e ∧ e.IsFormat path) ∨
      ∃ name, referenceName path table = .ok name ∧
        RefersTo table path name := by
  unfold referenceName
  dsimp only
  split
  next unmarked =>
    rw [Bool.and_eq_true, Bool.not_eq_true', Bool.not_eq_true'] at unmarked
    split
    next empty => exact .inl ⟨_, rfl, .inl rfl⟩
    next given =>
      refine .inr ⟨_, rfl, .alone given ?_ ?_⟩
      · simpa using unmarked.1
      · simpa using unmarked.2
  next marked =>
    split
    next uncut => exact .inl ⟨_, rfl, .inl rfl⟩
    next found name cut =>
      split
      next apart => exact .inl ⟨_, rfl, .inr ⟨_, _, rfl⟩⟩
      next here =>
        split
        next empty => exact .inl ⟨_, rfl, .inl rfl⟩
        next given =>
          obtain ⟨rest, start, cut⟩ := Option.bind_eq_some_iff.mp cut
          have signs : path = tablePointer table (String.ofList name) := by
            rw [← String.toList_inj, toList_tablePointer,
              Text.eq_append_of_dropPrefix? start, Text.eq_append_of_cutAt? cut,
              ← not_not.mp here, String.toList_ofList, String.toList_ofList]
          refine .inr ⟨_, rfl, ?_⟩
          rw [signs]
          exact .pointer (by simpa using given)

theorem referenceName_eq_ok_iff (clean : '/' ∉ table.toList) :
    referenceName path table = .ok name ↔ RefersTo table path name := by
  constructor
  · intro read
    rcases referenceName_cases table path with ⟨e, failed, _⟩ | ⟨_, found, refers⟩
    · rw [failed] at read
      cases read
    · rw [found, Except.ok.injEq] at read
      rwa [← read]
  · rintro (⟨given, slashless, hashless⟩ | given)
    · exact referenceName_alone given slashless hashless
    · exact referenceName_pointer clean given

/-- In a table whose name has no slash, exactly the names that stand alone and
the pointers to the table are read; the name behind a pointer is taken as it
stands. All other texts, pointers to other tables among them, are refused for
their format. -/
theorem references_follow_the_grammar (clean : '/' ∉ table.toList) :
    (∀ path name, referenceName path table = .ok name ↔
      RefersTo table path name) ∧
    (∀ path, (∀ name, ¬ RefersTo table path name) →
      ∃ e, referenceName path table = .error e ∧ e.IsFormat path ∧
        "invalid reference format: ".toList <+: e.message.toList) ∧
    (∀ name, name ≠ "" →
      referenceName (tablePointer table name) table = .ok name) ∧
    (∀ path other name, referenceName path table = .ok name →
      referenceName other table = .ok name → path ≠ other →
      path = name ∧ other = tablePointer table name ∨
        other = name ∧ path = tablePointer table name) ∧
    ∀ other name, table ≠ other →
      referenceName (tablePointer table name) other =
        .error (.otherSection other table (tablePointer table name)) := by
  refine ⟨fun path name => referenceName_eq_ok_iff clean, ?_, ?_, ?_, ?_⟩
  · intro path nothing
    rcases referenceName_cases table path with
      ⟨e, failed, format⟩ | ⟨name, _, refers⟩
    · exact ⟨e, failed, format, format.message⟩
    · exact absurd refers (nothing name)
  · intro name given
    exact referenceName_pointer clean given
  · intro path other name first second different
    rw [referenceName_eq_ok_iff clean] at first second
    cases first with
    | alone given slashless hashless =>
        cases second with
        | alone => exact absurd rfl different
        | pointer => exact .inl ⟨rfl, rfl⟩
    | pointer given =>
        cases second with
        | alone => exact .inr ⟨rfl, rfl⟩
        | pointer => exact absurd rfl different
  · intro other name apart
    exact referenceName_elsewhere clean apart

theorem cat_is_found_in_its_table :
    '/' ∉ "definitions".toList ∧ "definitions" ≠ "definition" ∧
      referenceName "#/definitions/cat/#2" "definitions" = .ok "cat/#2" ∧
      referenceName "cat" "definitions" = .ok "cat" ∧
      referenceName "#/definitions/cat" "definition" =
        .error (.otherSection "definition" "definitions" "#/definitions/cat") ∧
      ∃ e, referenceName "#" "definitions" = .error e ∧ e.IsFormat "#" := by
  have clean : '/' ∉ "definitions".toList := by decide
  have apart : "definitions" ≠ "definition" := by decide
  obtain ⟨grammar, refused, pointers, _, elsewhere⟩ :=
    references_follow_the_grammar clean
  have alone : RefersTo "definitions" "cat" "cat" :=
    .alone (by decide) (by decide) (by decide)
  have nothing : ∀ name, ¬ RefersTo "definitions" "#" name := by
    intro name
    rw [← grammar]
    have same : referenceName "#" "definitions" = .error (.invalid "#") := rfl
    simp [same]
  obtain ⟨e, failed, format, _⟩ := refused "#" nothing
  exact ⟨clean, apart, pointers "cat/#2" (by decide), (grammar _ _).mpr alone,
    elsewhere "definition" "cat" apart, e, failed, format⟩

end ApiBindings
