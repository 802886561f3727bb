import ApiBindings.Proofs.Bindings.Records

/-!
Bindings built by additions in any order. One addition puts its record last and
its types behind those that are known; so a whole run is told from the records
alone, and the order of the additions is seen in the order of the lists only.
-/

namespace ApiBindings.Bindings

inductive Addition
  | method (m : Method)
  | definition (d : TypeDeclaration)

namespace Addition

def method? : Addition → Option Method
  | method m => some m
  | definition _ => none

def definition? : Addition → Option TypeDeclaration
  | method _ => none
  | definition d => some d

/-- The types that the record asks for: a method those of its arguments and
then the one of its response. -/
def targets : Addition → List String
  | method m => m.arguments.filterMap (·.type.importTarget) ++ m.responseImport.toList
  | definition d => d.type.importTarget.toList

end Addition

def add (b : Bindings) : Addition → Bindings
  | .method m => b.addMethod m
  | .definition d => b.addDefinition d

def build (info : BindingsInfo) (additions : List Addition) : Bindings :=
  additions.foldl add { info }

structure BuiltFrom (info : BindingsInfo) (additions : List Addition)
    (b : Bindings) : Prop where
  info : b.info = info
  methods : b.methods = additions.filterMap Addition.method?
  definitions : b.definitions = additions.filterMap Addition.definition?
  imports : b.imports =
    (importNames (additions.flatMap Addition.targets)).eraseDups
  nodup : b.imports.Nodup
  isSecure : b.security.isSecure = false
  token : b.security.token = b.methods.any (needs (·.token))
  apiKey : b.security.apiKey = b.methods.any (needs (·.apiKey))
  basic : b.security.basic = b.methods.any (needs (·.basic))

theorem imports_add (b : Bindings) (a : Addition) :
    (b.add a).imports = a.targets.foldl addImport b.imports := by
  cases a with
  | method m => rfl
  | definition d => rfl

theorem nodup_addImport {names : List String} (distinct : names.Nodup)
    (target : String) : (addImport names target).Nodup := by
  rw [addImport]
  split
  next => exact distinct
  next fresh =>
    simp only [not_or] at fresh
    rw [List.nodup_append]
    refine ⟨distinct, List.pairwise_singleton _ _, ?_⟩
    intro known listed name single same
    rw [List.mem_singleton.mp single] at same
    exact fresh.2.2 (same ▸ listed)

theorem prefix_addImport (names : List String) (target : String) :
    names <+: addImport names target := by
  rw [addImport]
  split
  · exact List.prefix_refl names
  · exact List.prefix_append names _

theorem nodup_foldl_addImport {names : List String} (distinct : names.Nodup)
    (targets : List String) : (targets.foldl addImport names).Nodup := by
  induction targets generalizing names with
  | nil => exact distinct
  | cons target targets induction =>
      exact induction (nodup_addImport distinct target)

theorem prefix_foldl_addImport (names targets : List String) :
    names <+: targets.foldl addImport names := by
  induction targets generalizing names with
  | nil => exact List.prefix_refl names
  | cons target targets induction =>
      exact (prefix_addImport names target).trans (induction _)

theorem prefix_imports_foldl_add (b : Bindings) (additions : List Addition) :
    b.imports <+: (additions.foldl add b).imports := by
  induction additions generalizing b with
  | nil => exact List.prefix_refl _
  | cons a additions induction =>
      have next := induction (b.add a)
      rw [imports_add] at next
      exact (prefix_foldl_addImport b.imports a.targets).trans next

theorem foldl_add (b : Bindings) (additions : List Addition) :
    additions.foldl add b =
      { b with
        security := (additions.filterMap Addition.method?).foldl
          (fun flags m => flags.absorb m.security) b.security
        methods := b.methods ++ additions.filterMap Addition.method?
        definitions := b.definitions ++
          additions.filterMap Addition.definition?
        imports := (additions.flatMap Addition.targets).foldl addImport
          b.imports } := by
  induction additions generalizing b with
  | nil => simp
  | cons a additions induction =>
      rw [List.foldl_cons, induction]
      cases a with
      | method m =>
          simp [List.filterMap_cons, add, addMethod, Method.importTargets,
            Addition.method?, Addition.definition?, Addition.targets]
      | definition d =>
          simp [List.filterMap_cons, add, addDefinition, Addition.method?,
            Addition.definition?, Addition.targets]

theorem builtFrom_build (info : BindingsInfo) (additions : List Addition) :
    BuiltFrom info additions (build info additions) := by
  have run := foldl_add { info } additions
  have imported := foldl_addImport [] (additions.flatMap Addition.targets)
  rw [List.eraseDups_nil, List.nil_append] at imported
  rw [foldl_absorb] at run
  rw [build, run]
  refine ⟨rfl, List.nil_append _, List.nil_append _, imported, ?_, rfl, ?_, ?_,
    ?_⟩
  · exact nodup_foldl_addImport List.nodup_nil _
  all_goals exact Bool.false_or _

theorem importNames_perm {targets others : List String}
    (rearranged : targets.Perm others) :
    (importNames targets).Perm (importNames others) :=
  (rearranged.map _).filter _

theorem BuiltFrom.imports_perm {info : BindingsInfo}
    {additions others : List Addition} {b c : Bindings}
    (rearranged : additions.Perm others) (left : BuiltFrom info additions b)
    (right : BuiltFrom info others c) : b.imports.Perm c.imports := by
  have names := importNames_perm (rearranged.flatMap_right Addition.targets)
  rw [List.perm_ext_iff_of_nodup left.nodup right.nodup]
  intro name
  rw [left.imports, right.imports, List.mem_eraseDups, List.mem_eraseDups]
  exact names.mem_iff

theorem BuiltFrom.security_eq {info : BindingsInfo}
    {additions others : List Addition} {b c : Bindings}
    (rearranged : additions.Perm others) (left : BuiltFrom info additions b)
    (right : BuiltFrom info others c) : b.security = c.security := by
  have methods : b.methods.Perm c.methods := by
    rw [left.methods, right.methods]
    exact rearranged.filterMap _
  have same (mechanism : SecurityFlags → Bool) :
      b.methods.any (needs mechanism) = c.methods.any (needs mechanism) :=
    methods.any_eq
  calc
    b.security = ⟨b.security.isSecure, b.security.token, b.security.apiKey,
        b.security.basic⟩ := rfl
    _ = ⟨c.security.isSecure, c.security.token, c.security.apiKey,
        c.security.basic⟩ := by
      rw [left.isSecure, left.token, left.apiKey, left.basic, right.isSecure,
        right.token, right.apiKey, right.basic, same, same, same]
    _ = c.security := rfl

/-- Additions in any order give the records in that order, the names of the
types that they ask for, each one where it is met first, and the mechanisms of
the secure methods. More additions only append imports, and rearranging them
changes neither what is imported nor the mechanisms. -/
theorem additions_determine_bindings (info : BindingsInfo) :
    (∀ additions, BuiltFrom info additions (build info additions)) ∧
    (∀ additions more, (build info additions).imports <+:
      (build info (additions ++ more)).imports) ∧
    ∀ additions others, additions.Perm others →
      (build info additions).imports.Perm (build info others).imports ∧
      (build info additions).security = (build info others).security := by
  refine ⟨builtFrom_build info, ?_, ?_⟩
  · intro additions more
    rw [build, build, List.foldl_append]
    exact prefix_imports_foldl_add _ more
  · intro additions others rearranged
    have left := builtFrom_build info additions
    have right := builtFrom_build info others
    exact ⟨left.imports_perm rearranged right, left.security_eq rearranged right⟩

def asking (target : String) : TypeExpr :=
  { text := target, kind := .array, importTarget := some target }

def rack : TypeDeclaration := ⟨"Rack", none, asking "Array<Array<Pet>>"⟩

def taking (name : String) (type : TypeExpr) : Argument :=
  { name, camelCaseName := name, place := .body, description := none,
    required := true, singleton := none, pattern := none, type }

/-- One argument asks for a built-in type, seen when the containers are gone. -/
def swapToys : Method :=
  { name := "swapToys"
    verb := .put
    path := "/toys"
    pathTemplate := "/toys"
    summary := none
    externalDocs := none
    tags := []
    deprecated := false
    security := { isSecure := true, token := true }
    arguments :=
      [taking "toys" (asking "ArrArray<ay<void>"),
        taking "balls" (asking "Array<Ball>")]
    headers := []
    responseType := "Toy"
    responseImport := some "Array<Toy" }

def racksFirst : List Addition := [.definition rack, .method swapToys]

def toysFirst : List Addition := [.method swapToys, .definition rack]

theorem toys_and_racks_in_any_order :
    racksFirst.Perm toysFirst ∧
    (build {} racksFirst).imports = ["Pet", "Ball", "Toy"] ∧
    (build {} toysFirst).imports = ["Ball", "Toy", "Pet"] ∧
    (build {} racksFirst).security = (build {} toysFirst).security := by
  obtain ⟨built, _, rearranged⟩ := additions_determine_bindings {}
  have swapped : racksFirst.Perm toysFirst := List.Perm.swap _ _ _
  refine ⟨swapped, ?_, ?_, (rearranged _ _ swapped).2⟩
  · rw [(built _).imports]
    decide +kernel
  · rw [(built _).imports]
    decide +kernel

end ApiBindings.Bindings
