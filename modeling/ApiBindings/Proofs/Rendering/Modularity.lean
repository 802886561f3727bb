import ApiBindings.Proofs.Rendering.Files

/-!
Rendering is modular: each type declaration and each method has a text of its
own, and a file consists of these texts, in the order of the records, between
texts for the bindings as a whole.
-/

namespace ApiBindings

namespace Rendering

namespace Layout

variable {l : Layout} {mode : Mode}

theorem written_parts (l : Layout) (b : Bindings) :
    written (l.parts b) =
      written (l.head b.info b.imports) ++
        String.join (b.definitions.map fun d => written (l.declaration d)) ++
        written (l.middle b.info) ++
        String.join (b.methods.map fun m => written (l.method m)) ++
        written (l.tail b.info) := by
  simp only [parts, written_append, written_flatMap]

theorem head_ignores_imports (known : layout? mode = some l)
    (other : mode ≠ .classWrapper) (info : BindingsInfo)
    (imports : List String) : l.head info imports = l.head info [] := by
  cases mode with
  | client => cases known; rfl
  | types => cases known; rfl
  | classWrapper => exact absurd rfl other
  | custom => cases known

theorem declaration_of_classWrapper (known : layout? .classWrapper = some l)
    (d : TypeDeclaration) : l.declaration d = [] := by
  cases known
  rfl

theorem method_of_types (known : layout? .types = some l) (m : Method) :
    l.method m = [] := by
  cases known
  rfl

end Layout

end Rendering

namespace Bindings

open Rendering

/-- No record's text depends on another record. Types that have been imported
show only in class wrappers, which have no declarations; files of types have no
methods. -/
theorem rendering_is_modular {mode : Mode} (known : mode ≠ .custom) :
    ∃ l, layout? mode = some l ∧
      (∀ b : Bindings, (b.render mode {} ∅).result = .ok
        (written (l.head b.info b.imports) ++
          String.join (b.definitions.map fun d => written (l.declaration d)) ++
          written (l.middle b.info) ++
          String.join (b.methods.map fun m => written (l.method m)) ++
          written (l.tail b.info))) ∧
      (mode ≠ .classWrapper →
        ∀ info imports, l.head info imports = l.head info []) ∧
      (mode = .classWrapper → ∀ d, l.declaration d = []) ∧
      (mode = .types → ∀ m, l.method m = []) := by
  obtain ⟨l, laid⟩ := exists_layout known
  refine ⟨l, laid, fun b => ?_, fun other => l.head_ignores_imports laid other,
    ?_, ?_⟩
  · rw [result_render_of_layout laid fun _ listed =>
      absurd listed List.not_mem_nil, l.written_parts]
  · rintro rfl
    exact Layout.declaration_of_classWrapper laid
  · rintro rfl
    exact Layout.method_of_types laid

def hatchery : Bindings where
  info := { className := "Hatchery", moduleName := "hatchery" }
  definitions :=
    [{ name := "Egg", description := none, type := TypeExpr.reference "Shell" },
      { name := "Shell", description := some "*/",
        type := TypeExpr.array (TypeExpr.reference "Egg") }]

theorem hatchery_types :
    Mode.types ≠ .custom ∧
      ∃ l, layout? .types = some l ∧
        (hatchery.render .types {} ∅).result = .ok
          (written (l.head hatchery.info []) ++
            "\nexport type Egg = Shell;\n\n" ++
            "\n/**\n * *\\/\n */\nexport type Shell = Array<Egg>;\n\n") := by
  refine ⟨by decide, ?_⟩
  obtain ⟨l, laid, text, -⟩ :=
    rendering_is_modular (by decide : Mode.types ≠ .custom)
  cases laid
  refine ⟨typesLayout, rfl, ?_⟩
  have declarations : hatchery.definitions.map
      (fun d => written (typesLayout.declaration d)) =
        ["\nexport type Egg = Shell;\n\n",
          "\n/**\n * *\\/\n */\nexport type Shell = Array<Egg>;\n\n"] := by
    decide +kernel
  rw [text, declarations]
  simp [hatchery, typesLayout, String.append_assoc]

end Bindings

end ApiBindings
