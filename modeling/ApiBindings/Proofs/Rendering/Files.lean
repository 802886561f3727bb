import ApiBindings.Proofs.Rendering.Safety
import ApiBindings.Proofs.Rendering.Written

/-!
The built-in templates for whole files, and rendering with them: in each mode
that needs no templates of its own, the text consists of the parts of a layout.
-/

namespace ApiBindings.Rendering

open Template

variable {embed : Embed} {levels : Nat} {s : Scope}

theorem requestTree_writes :
    AllWrite embed levels s requestTree (written requestParts) := by
  have aligned : written requestParts =
      together (requestTypes ++ ["/**", requestNote, "*/", requestType]) := by
    simp [requestParts, together, Part.text, ← String.toList_inj]
  rw [aligned]
  exact .one (.text _)

section Files

variable {b : Bindings} {library : Template.Library} {nesting : Nat}

def Knows (s : Scope) (b : Bindings) : Prop :=
  ∀ n v, Entries.find? n (bindingsFields b).reverse = some v → Stands s n v

theorem headTree_writes (root : Knows s b) :
    AllWrite embed (levels + 1) s headTree (written (headParts b.info)) := by
  have described : Stands s "description" (.ofOption b.info.description) :=
    root _ _ rfl
  have escaped (d : String) (given : Stands s "description" (.text d)) :
      (Expr.filter "escape_jsdoc" (.name "description") []).eval s =
        .ok (.text (escapeComment d)) := by
    rw [Expr.eval, given]
    rfl
  have aligned : written (headParts b.info) =
      "/* eslint-disable */\n/**\n * " ++ (b.info.moduleName ++
        (ifGiven b.info.description (fun d => ": " ++ escapeComment d) ++
          ("\n *\n * Generated by stg. Do not edit by hand.\n */\n" ++
            String.join (b.info.imports.map fun line => line ++ "\n")))) := by
    simp [headParts, Part.text, ← String.toList_inj]
  rw [aligned]
  exact .cons (.text _) <|
    .cons (.value (root _ _ rfl)) <|
    .cons (.given described fun d given =>
      .cons (.text _) <|
      .one (.value (escaped d given))) <|
    .cons (.text _) <|
    .one (.each (root _ _ rfl) fun _ _ _ _ inside =>
      .cons (.value inside.item) <|
      .one (.text _))

/-- A template of the library writes the same where it is included. -/
theorem included_writes {name text : String} {nodes : List Node}
    (found : Entries.find? name library = some nodes)
    (writes : AllWrite (library.embed nesting) levels s nodes text) :
    (included name).Writes (library.embed (nesting + 1)) (levels + 10) s
      text := by
  obtain ⟨run, embedded, ran⟩ := library.embed_of_found found nesting
    (Nat.le_add_left embedCost levels)
  exact .embedded embedded (ran s _ writes)

theorem join_map_empty {α : Type} (xs : List α) :
    String.join (xs.map fun _ => "") = "" := by
  induction xs with
  | nil => rfl
  | cons x xs induction =>
      rw [List.map_cons, String.join_cons, induction, String.append_empty]

section Layouts

variable (root : Knows s b)
  (request : Entries.find? "request" library = some requestTree)
  (type : Entries.find? "type" library = some typeTree)
  (method : Entries.find? "method" library = some methodTree)

include root request type method in
theorem classTree_writes :
    AllWrite (library.embed (nesting + 1)) (levels + 12) s
      classTree (written (clientLayout.parts b)) := by
  unfold Layout.parts clientLayout
  simp only [written_append, written_flatMap, written_cons, written_nil,
    Part.text, String.append_assoc, String.append_empty, String.empty_append, List.append_assoc,
    List.cons_append]
  exact .append (headTree_writes root) <|
    .cons (.text _) <|
    .cons (included_writes request requestTree_writes) <|
    .cons (.text _) <|
    .cons (.each (root _ _ rfl) fun _ _ _ _ inside =>
      .cons (included_writes type (typeTree_writes inside.item)) <|
      .one (.text _)) <|
    .cons (.optional (root _ _ rfl) Iff.rfl fun _ => .one (.text _)) <|
    .cons (.text _) <|
    .cons (.value (root _ _ rfl)) <|
    .cons (.text _) <|
    .cons (.value (root _ _ rfl)) <|
    .cons (.text _) <|
    .cons (.each (root _ _ rfl) fun _ _ _ _ inside =>
      .cons (.text _) <|
      .cons (included_writes method (methodTree_writes inside.item)) <|
      .one (.text _)) <|
    .cons (.text _) <|
    .one (.optional (eval_not (root _ _ rfl)) Iff.rfl fun _ =>
      .cons (.text _) <|
      .cons (.value (root _ _ rfl)) <|
      .one (.text _))

include root type in
theorem typesTree_writes :
    AllWrite (library.embed (nesting + 1)) (levels + 12) s typesTree
      (written (typesLayout.parts b)) := by
  have head : written (typesLayout.head b.info b.imports) =
      "/* eslint-disable */\n/**\n * Types for " ++ (b.info.moduleName ++
        ".\n *\n * Generated by stg. Do not edit by hand.\n */\n") := by
    simp [typesLayout, Part.text, ← String.toList_inj]
  unfold Layout.parts
  simp only [written_append, head, String.append_assoc]
  simp only [typesLayout, written_flatMap, written_append, written_cons,
    written_nil, Part.text, String.append_assoc, String.append_empty,
    List.cons_append, join_map_empty]
  exact .cons (.text _) <|
    .cons (.value (root _ _ rfl)) <|
    .cons (.text _) <|
    .one (.each (root _ _ rfl) fun _ _ _ _ inside =>
      .cons (.text _) <|
      .cons (included_writes type (typeTree_writes inside.item)) <|
      .one (.text _))

include root request method in
theorem classWrapperTree_writes :
    AllWrite (library.embed (nesting + 1)) (levels + 12) s classWrapperTree
      (written (classWrapperLayout.parts b)) := by
  unfold Layout.parts classWrapperLayout
  simp only [written_append, written_flatMap, written_cons, written_nil,
    Part.text, String.append_assoc, String.append_empty, String.empty_append,
    List.append_assoc, List.cons_append, join_map_empty]
  exact .append (headTree_writes root) <|
    .cons (.optional (root _ _ rfl) Iff.rfl fun _ =>
      .cons (.value (root _ _ rfl)) <|
      .one (.text _)) <|
    .cons (.text _) <|
    .cons (included_writes request requestTree_writes) <|
    .cons (.text _) <|
    .cons (.value (root _ _ rfl)) <|
    .cons (.text _) <|
    .cons (.value (root _ _ rfl)) <|
    .cons (.text _) <|
    .cons (.each (root _ _ rfl) fun _ _ _ _ inside =>
      .cons (.text _) <|
      .cons (included_writes method (methodTree_writes inside.item)) <|
      .one (.text _)) <|
    .one (.text _)

end Layouts

end Files

def ReadAs (template : String × String) (tree : String × List Node) : Prop :=
  template.1 = tree.1 ∧ parse template.2 = .ok tree.2

set_option maxRecDepth 100000 in
theorem built_in_trees : List.Forall₂ ReadAs builtInTemplates trees := by
  simp only [builtInTemplates, trees, List.forall₂_cons, List.Forall₂.nil,
    and_true, ReadAs]
  refine ⟨⟨trivial, ?_⟩, ⟨trivial, ?_⟩, ⟨trivial, ?_⟩, ⟨trivial, ?_⟩,
    ⟨trivial, ?_⟩, ⟨trivial, ?_⟩⟩
  all_goals
    rw [parse_eq]
    simp only [request, fromLines, requestLines, typeLines, methodLines,
      clientLines, typesWrapperLines, classWrapperLines, put, tag,
      List.map_cons, List.map_nil, String.toList_join, String.toList_append,
      List.flatMap_cons, List.flatMap_nil, List.cons_append, List.nil_append,
      requestTree, methodTree, methodBodyTree, classTree, together,
      requestTypes, requestNote, requestType, bodyStart, classStart]
    -- Both sides are told by characters, so that none has to be decoded.
    repeat rw [String.toList_ofList]
    rfl

theorem library_of_trees {templates : List (String × String)}
    {l : Template.Library} (read : List.Forall₂ ReadAs templates l) :
    library templates = .ok l := by
  refine Outcome.mapM_eq_ok.mpr (read.imp ?_)
  rintro ⟨name, text⟩ ⟨_, tree⟩ ⟨rfl, parsed⟩
  simp only [parsed, Outcome.ok_bind]
  rfl

end ApiBindings.Rendering

namespace ApiBindings.Bindings

open Rendering

variable {b : Bindings} {mode : Mode} {extra : OrderedMap String Json}

theorem knows_context
    (fresh : ∀ key ∈ extra.keys, key ∉ (bindingsFields b).map Prod.fst) :
    Knows (.start (context b extra.entries)) b := by
  intro n v found
  have listed := List.mem_map_of_mem (f := Prod.fst) (Entries.mem_of_find? found)
  rw [List.map_reverse, List.mem_reverse] at listed
  exact congrArg Except.ok
    (lookup_context found fun given => fresh n given listed)

theorem result_render_of_trees {entry text : String} {tree : List Template.Node}
    {templates : List (String × String)} {l : Template.Library}
    (chosen : sources mode {} = .ok (entry, templates))
    (read : List.Forall₂ ReadAs (("request", request) :: templates) l)
    (found : Entries.find? entry l = some tree)
    (writes : Template.AllWrite
      (l.embed (Template.depthLimit / Template.embedCost + 1))
      Template.depthLimit (.start (context b extra.entries)) tree text) :
    (b.render mode {} extra).result = .ok text := by
  rw [result_render chosen (library_of_trees read),
    Template.Library.render_of_found found writes]
  rfl

theorem result_render_of_layout {l : Layout} (known : layout? mode = some l)
    (fresh : ∀ key ∈ extra.keys, key ∉ (bindingsFields b).map Prod.fst) :
    (b.render mode {} extra).result = .ok (written (l.parts b)) := by
  have root := knows_context fresh
  have read := built_in_trees
  simp only [builtInTemplates, trees, List.forall₂_cons] at read
  obtain ⟨request, type, method, client, types, wrapper, -⟩ := read
  cases mode with
  | client =>
      cases known
      have chosen : sources .client {} = .ok ("class",
          [("class", fromLines clientLines), ("method", fromLines methodLines),
            ("type", fromLines typeLines)]) := by
        simp only [sources, builtIn, Option.none_or, Option.getD_some]
      exact result_render_of_trees chosen
        (.cons request <| .cons client <| .cons method <| .cons type .nil) rfl
        (classTree_writes root rfl rfl rfl)
  | types =>
      cases known
      have chosen : sources .types {} = .ok ("types_wrapper",
          [("types_wrapper", fromLines typesWrapperLines),
            ("type", fromLines typeLines)]) := by
        simp only [sources, builtIn, Option.none_or, Option.getD_some]
      exact result_render_of_trees chosen
        (.cons request <| .cons types <| .cons type .nil) rfl
        (typesTree_writes root rfl)
  | classWrapper =>
      cases known
      have chosen : sources .classWrapper {} = .ok ("class_wrapper",
          [("class_wrapper", fromLines classWrapperLines),
            ("method", fromLines methodLines),
            ("type", fromLines typeLines)]) := by
        simp only [sources, builtIn, Option.none_or, Option.getD_some]
      exact result_render_of_trees chosen
        (.cons request <| .cons wrapper <| .cons method <| .cons type .nil) rfl
        (classWrapperTree_writes root rfl rfl)
  | custom => cases known

end ApiBindings.Bindings
