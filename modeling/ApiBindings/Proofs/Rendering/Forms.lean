import ApiBindings.Proofs.Template.Agreement
import ApiBindings.Rendering.Context

/-!
The forms of the values that templates get for bindings, and the signatures of
the built-in templates. The values of the same bindings have these forms,
whatever values are given besides under other names; the record of a method has
its form also in classes of different names.
-/

namespace ApiBindings.Rendering

open Template

inductive RecordKind
  | method
  | argument
  | header
  | definition
  | type
  | property
  deriving DecidableEq

/-- A method may go into several classes. -/
def fieldForms : RecordKind → List (String × Form RecordKind)
  | .method =>
    [("class_name", .hidden), ("external_docs", .defined),
      ("parameters", .list (.record .argument)),
      ("headers", .list (.record .header)), ("security_kinds", .list .same)]
  | .argument => [("type_expr", .defined)]
  | .header => []
  | .definition => [("type_expr", .record .type)]
  | .type => [("properties", .list (.record .property))]
  | .property => [("type_expr", .defined)]

def rootForms : List (String × Form RecordKind) :=
  [("description", .same), ("class_name", .same), ("module_name", .same),
    ("is_es6", .same), ("imports", .list .same), ("domain_literal", .same),
    ("methods", .list (.record .method)),
    ("definitions", .list (.record .definition)), ("has_imports", .same),
    ("import_statement", .same)]

def signatures : List (String × Signature RecordKind) :=
  [("request", ⟨0, [], []⟩),
    ("type", ⟨1, [("definition", .record .definition)], []⟩),
    ("method", ⟨1, [("method", .record .method)], []⟩),
    ("class", ⟨12, rootForms, ["request", "type", "method"]⟩),
    ("types_wrapper", ⟨12, rootForms, ["type"]⟩),
    ("class_wrapper", ⟨12, rootForms, ["request", "method"]⟩)]

def catalog : Catalog RecordKind :=
  ⟨fieldForms, fun name => Entries.find? name signatures⟩

theorem typeValue_eq (t : TypeExpr) :
    typeValue t = .ofFields
      [("expr", .text t.text), ("inline", .text t.inline),
        ("kind", .text t.kind.name), ("is_atomic", flag t.isAtomic),
        ("is_ref", flag (t.kind = .reference)),
        ("is_enum", flag (t.kind = .choice)),
        ("is_array", flag (t.kind = .array)), ("is_map", flag (t.kind = .map)),
        ("is_object", flag (t.kind = .object)),
        ("target", .ofOption t.importTarget),
        ("description", .ofOption t.description),
        ("properties", .list (propertyValues t.properties))] := by
  cases t
  rw [typeValue]

theorem propertyValue_alike (p : Property TypeExpr) :
    Alike catalog (.record .property) (propertyValue p) (propertyValue p) := by
  rw [propertyValue]
  refine .of_fields (List.forall_mem_singleton.mpr ?_) fun _ _ => rfl
  rw [show Value.given "type_expr" _ = typeValue p.type from rfl, typeValue_eq]
  exact .defined nofun

theorem propertyValues_alike (ps : List (Property TypeExpr)) :
    Alike catalog (.list (.record .property)) (.list (propertyValues ps))
      (.list (propertyValues ps)) := by
  refine .of_items ?_
  induction ps with
  | nil => exact .nil
  | cons p ps induction => exact .cons (propertyValue_alike p) induction

theorem typeValue_alike (t : TypeExpr) :
    Alike catalog (.record .type) (typeValue t) (typeValue t) := by
  rw [typeValue_eq]
  refine .of_fields (List.forall_mem_singleton.mpr ?_) fun _ _ => rfl
  exact propertyValues_alike t.properties

theorem definitionValue_alike (d : TypeDeclaration) :
    Alike catalog (.record .definition) (definitionValue d)
      (definitionValue d) := by
  refine .of_fields (List.forall_mem_singleton.mpr ?_) fun _ _ => rfl
  exact typeValue_alike d.type

theorem argumentValue_alike (a : Argument) :
    Alike catalog (.record .argument) (argumentValue a) (argumentValue a) := by
  refine .of_fields (List.forall_mem_singleton.mpr ?_) fun _ _ => rfl
  rw [show Value.given "type_expr" _ = typeValue a.type from rfl, typeValue_eq]
  exact .defined nofun

theorem headerValue_alike (h : FixedHeader) :
    Alike catalog (.record .header) (headerValue h) (headerValue h) :=
  .of_fields nofun fun _ _ => rfl

theorem methodValue_alike (c d : String) (m : Method) :
    Alike catalog (.record .method) (methodValue c m) (methodValue d m) := by
  refine .of_fields ?_ fun n listed => ?_
  · have docs (o : Option ExternalDocs) :
        (o.map externalDocsValue).getD .none ≠ .undefined := by
      cases o <;> nofun
    simp only [catalog, fieldForms, List.forall_mem_cons]
    exact ⟨.hidden _ _, .defined (docs m.externalDocs),
      Alike.map_self argumentValue_alike m.arguments,
      Alike.map_self headerValue_alike m.headers,
      Alike.map_self (fun s => .same (.text s)) (securityKinds m.security),
      nofun⟩
  · have other : n ≠ "class_name" := by
      rintro rfl
      nomatch listed
    exact Value.given_congr [("name", .text m.name)] _ other.symm

theorem lookup_context {b : Bindings} {extra : List (String × Json)}
    {n : String} {v : Value}
    (known : Entries.find? n (bindingsFields b).reverse = some v)
    (fresh : n ∉ extra.map Prod.fst) :
    (Scope.start (context b extra)).lookup n = v := by
  have other : Entries.find? n (extraFields extra).reverse = none := by
    rw [Entries.find?_eq_none, List.map_reverse, List.mem_reverse,
      extraFields, List.map_map]
    exact fresh
  apply Scope.lookup_start
  rw [context, fieldMembers, Value.member?_foldl_putMember,
    List.reverse_append, Entries.find?_append, other, Option.none_or, known]
  rfl

theorem rootForms_alike (b : Bindings) : ∀ e ∈ rootForms,
    ∃ v, Entries.find? e.1 (bindingsFields b).reverse = some v ∧
      Alike catalog e.2 v v := by
  simp only [rootForms, List.forall_mem_cons]
  refine ⟨⟨_, rfl, .same _⟩, ⟨_, rfl, .same _⟩, ⟨_, rfl, .same _⟩,
    ⟨_, rfl, .same _⟩, ⟨_, rfl, ?imports⟩, ⟨_, rfl, .same _⟩,
    ⟨_, rfl, ?methods⟩, ⟨_, rfl, ?definitions⟩, ⟨_, rfl, .same _⟩,
    ⟨_, rfl, .same _⟩, nofun⟩
  case imports => exact .map_self (fun s => .same (.text s)) b.info.imports
  case methods => exact .map_self (fun m => methodValue_alike _ _ m) b.methods
  case definitions => exact .map_self definitionValue_alike b.definitions

theorem context_fits {b : Bindings} {extra : List (String × Json)}
    (fresh : ∀ key ∈ extra.map Prod.fst,
      key ∉ (bindingsFields b).map Prod.fst) :
    Fits catalog rootForms (.start (context b extra))
      (.start (context b [])) := by
  intro n f asked
  obtain ⟨v, found, alike⟩ :=
    rootForms_alike b (n, f) (Entries.mem_of_find? asked)
  have listed : n ∈ (bindingsFields b).map Prod.fst := by
    have member := List.mem_map_of_mem (f := Prod.fst)
      (Entries.mem_of_find? found)
    rwa [List.map_reverse, List.mem_reverse] at member
  rw [lookup_context found fun given => fresh n given listed,
    lookup_context found List.not_mem_nil]
  exact alike

end ApiBindings.Rendering
