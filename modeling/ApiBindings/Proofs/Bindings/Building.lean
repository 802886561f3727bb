import ApiBindings.Bindings.Basic
import Mathlib.Data.List.Basic

/-!
What the bindings hold after any number of additions, and the list of imports
that the additions lead to.
-/

namespace ApiBindings.Bindings

def targets (b : Bindings) : List String :=
  b.methods.flatMap Method.importTargets ++
    b.definitions.flatMap (·.type.importTarget.toList)

def importNames (targets : List String) : List String :=
  (targets.map Naming.withoutContainers).filter fun name =>
    name ≠ "" && !Naming.isBuiltinType name

theorem foldl_addMethod (b : Bindings) (ms : List Method) :
    ms.foldl addMethod b =
      { b with
        security := ms.foldl (fun flags m => flags.absorb m.security) b.security
        methods := b.methods ++ ms
        imports := (ms.flatMap Method.importTargets).foldl addImport
          b.imports } := by
  induction ms generalizing b with
  | nil => simp
  | cons m ms induction =>
      rw [List.foldl_cons, induction]
      simp [addMethod]

theorem foldl_addDefinition (b : Bindings) (ds : List TypeDeclaration) :
    ds.foldl addDefinition b =
      { b with
        definitions := b.definitions ++ ds
        imports := (ds.flatMap (·.type.importTarget.toList)).foldl addImport
          b.imports } := by
  induction ds generalizing b with
  | nil => simp
  | cons d ds induction =>
      rw [List.foldl_cons, induction]
      simp [addDefinition]

theorem importNames_cons (target : String) (targets : List String) :
    importNames (target :: targets) =
      importNames [target] ++ importNames targets := by
  simp only [importNames, List.map_cons, List.map_nil, ← List.filter_append,
    List.singleton_append]

theorem addImport_eraseDups (names : List String) (target : String) :
    addImport names.eraseDups target =
      (names ++ importNames [target]).eraseDups := by
  simp only [addImport, importNames, List.map_cons, List.map_nil]
  generalize Naming.withoutContainers target = name
  by_cases empty : name = ""
  · simp [empty]
  · by_cases builtin : Naming.isBuiltinType name
    · simp [builtin]
    · by_cases known : name ∈ names
      · simp [empty, builtin, known, List.eraseDups_append, List.removeAll]
      · simp [empty, builtin, known, List.eraseDups_append, List.removeAll,
          List.eraseDups_cons]

theorem foldl_addImport (names targets : List String) :
    targets.foldl addImport names.eraseDups =
      (names ++ importNames targets).eraseDups := by
  induction targets generalizing names with
  | nil => simp [importNames]
  | cons target targets induction =>
      rw [List.foldl_cons, addImport_eraseDups, induction,
        List.append_assoc, ← importNames_cons]

end ApiBindings.Bindings
