import ApiBindings.Proofs.Rendering.Forms
import ApiBindings.Proofs.Rendering.Trees

/-!
The built-in templates for single records write what is told without templates.
-/

namespace ApiBindings.Rendering

open Template

section Parts

theorem written_append (first second : List Part) :
    written (first ++ second) = written first ++ written second := by
  simp [written]

@[simp] theorem written_nil : written [] = "" := by
  simp [written]

@[simp] theorem written_cons (p : Part) (parts : List Part) :
    written (p :: parts) = p.text ++ written parts := by
  simp [written]

theorem written_flatMap {α : Type} (f : α → List Part) (xs : List α) :
    written (xs.flatMap f) = String.join (xs.map fun x => written (f x)) := by
  induction xs with
  | nil => rfl
  | cons x xs induction => simp [written_append, induction]

theorem written_elim (o : Option String) (parts : String → List Part) :
    written ((filled o).elim [] parts) = ifGiven o fun d => written (parts d) := by
  unfold ifGiven
  cases filled o <;> simp

end Parts

variable {embed : Embed} {levels : Nat} {s : Scope}

section Records

variable {c : String} {m : Method} {a : Argument} {p : Property TypeExpr}
  {d : TypeDeclaration} {h : FixedHeader}

abbrev Stands (s : Scope) (n : String) (v : Value) : Prop :=
  (Expr.name n).eval s = .ok v

theorem eval_fieldOf {n f : String} {fields : List (String × Value)} {v : Value}
    (known : Stands s n (.ofFields fields)) (found : Value.given f fields = v) :
    (fieldOf n f).eval s = .ok v :=
  found ▸ Expr.eval_field known f

theorem eval_partOf {n f g : String} {fields inner : List (String × Value)}
    {v : Value} (known : Stands s n (.ofFields fields))
    (found : Value.given f fields = .ofFields inner)
    (part : Value.given g inner = v) : (partOf n f g).eval s = .ok v :=
  part ▸ Expr.eval_field (eval_fieldOf known found) g

theorem eval_not {e : Expr} {c : Bool} (tested : e.eval s = .ok (flag c)) :
    (Expr.not e).eval s = .ok (flag !c) := by
  rw [Expr.eval, tested]
  rfl

theorem eval_and {e e' : Expr} {c d : Bool} (first : e.eval s = .ok (flag c))
    (second : e'.eval s = .ok (flag d)) :
    (Expr.binary .and e e').eval s = .ok (flag (c && d)) := by
  rw [Expr.eval, first, second]
  cases c <;> rfl

theorem propertyTree_writes (known : Stands s "prop" (propertyValue p)) :
    AllWrite embed levels s propertyTree (written (propertyParts p)) := by
  obtain ⟨name, type, optional⟩ := p
  rw [propertyValue, typeValue_eq] at known
  have aligned : written (propertyParts ⟨name, type, optional⟩) =
      ifGiven type.description
          (fun d => "  /** " ++ (escapeComment d ++ " */\n")) ++
        ("  " ++ (Naming.propertyKey name ++ (TypeExpr.marker optional ++
          (": " ++ (type.inline ++ ";\n"))))) := by
    rw [propertyParts, written_append, written_elim]
    refine congrArg₂ (· ++ ·) (congrArg (ifGiven _) (funext fun d => ?_)) ?_
    · simp [Part.text, ← String.toList_inj]
    · simp [Part.text, String.append_assoc]
  rw [aligned]
  exact .cons (.note (eval_fieldOf known rfl)) <|
    .cons (.text _) <|
    .cons (.value (eval_fieldOf known rfl)) <|
    .cons (.value (eval_fieldOf known rfl)) <|
    .cons (.text _) <|
    .cons (.value (eval_partOf known rfl rfl)) <|
    .one (.text _)

theorem propertyValues_eq (ps : List (Property TypeExpr)) :
    propertyValues ps = ps.map propertyValue := by
  induction ps with
  | nil => rw [propertyValues, List.map_nil]
  | cons p ps induction => rw [propertyValues, induction, List.map_cons]

theorem typeTree_writes (known : Stands s "definition" (definitionValue d)) :
    AllWrite embed (levels + 1) s typeTree (written (declarationParts d)) := by
  obtain ⟨name, description, type⟩ := d
  rw [definitionValue, typeValue_eq, propertyValues_eq] at known
  have aligned : written (declarationParts ⟨name, description, type⟩) =
      ifGiven description
          (fun d => "/**\n * " ++ (escapeComment d ++ "\n */\n")) ++
        if type.kind = .object then
          "export interface " ++ (name ++ (" \x7b\n" ++
            (String.join (type.properties.map fun p =>
              written (propertyParts p)) ++ "\x7d\n")))
        else "export type " ++ (name ++ (" = " ++ (type.inline ++ ";\n"))) := by
    rw [declarationParts, written_append, written_elim]
    refine congrArg₂ (· ++ ·) (congrArg (ifGiven _) (funext fun d => ?_)) ?_
    · simp [Part.text, ← String.toList_inj]
    · split <;>
        simp [Part.text, written_append, written_flatMap, String.append_assoc]
  rw [aligned]
  exact .cons (.note (eval_fieldOf known rfl)) <| .one <|
    .ifElse (eval_partOf known rfl rfl) decide_eq_true_iff
      (fun _ =>
        .cons (.text _) <|
        .cons (.value (eval_fieldOf known rfl)) <|
        .cons (.text _) <|
        .cons (.each (eval_partOf known rfl rfl) fun p _ _ _ inside =>
          propertyTree_writes inside.item) <|
        .one (.text _))
      (fun _ =>
        .cons (.text _) <|
        .cons (.value (eval_fieldOf known rfl)) <|
        .cons (.text _) <|
        .cons (.value (eval_partOf known rfl rfl)) <|
        .one (.text _))

theorem docs_write (known : Stands s "method" (methodValue c m)) :
    Node.Writes embed levels s
      (whenever (fieldOf "method" "external_docs")
        [.text "   * @see ", .output (partOf "method" "external_docs" "url"),
          .text "\n"])
      (docsNote m.externalDocs) := by
  cases given : m.externalDocs with
  | none =>
      rw [methodValue, given] at known
      exact .ifFalse (eval_fieldOf known rfl) rfl .nil
  | some d =>
      rw [methodValue, given] at known
      rw [docsNote, Option.elim_some, String.append_assoc]
      exact .ifTrue (eval_fieldOf known rfl) rfl <|
        .cons (.text _) <|
        .cons (.value (eval_partOf known rfl rfl)) <|
        .one (.text _)

theorem argumentNoteTree_writes (known : Stands s "p" (argumentValue a)) :
    AllWrite embed levels s argumentNoteTree (argumentNote a) := by
  have described : (fieldOf "p" "description").eval s =
      .ok (.ofOption a.description) := eval_fieldOf known rfl
  have escaped (d : String)
      (given : (fieldOf "p" "description").eval s = .ok (.text d)) :
      (Expr.filter "escape_jsdoc" (.binary .concat (.const (.text " "))
        (fieldOf "p" "description")) []).eval s =
          .ok (.text (escapeComment (" " ++ d))) := by
    rw [Expr.eval, Expr.eval, given]
    rfl
  unfold argumentNote
  simp only [String.append_assoc]
  exact .cons (.text _) <|
    .cons (.value (eval_fieldOf known rfl)) <|
    .cons (.outputGiven described escaped) <|
    .one (.text _)

theorem methodNoteTree_writes (known : Stands s "method" (methodValue c m)) :
    AllWrite embed (levels + 1) s methodNoteTree ("  /**\n" ++ methodNote m) := by
  unfold methodNote
  simp only [String.append_assoc]
  exact .cons (.text _) <|
    .cons (.note (eval_fieldOf known rfl)) <|
    .cons (.text _) <|
    .cons (.value (eval_fieldOf known rfl)) <|
    .cons (.text _) <|
    .cons (.value (eval_fieldOf known rfl)) <|
    .cons (.text _) <|
    .cons (.each (eval_fieldOf known rfl) fun _ _ _ _ inside =>
      argumentNoteTree_writes inside.item) <|
    .cons (docs_write known) <|
    .one (.optional (eval_fieldOf known rfl) Iff.rfl fun _ => .one (.text _))

theorem argumentLineTree_writes (known : Stands s "p" (argumentValue a)) :
    argumentLineTree.Writes embed levels s (argumentLine a) := by
  rw [argumentValue, typeValue_eq] at known
  unfold argumentLine
  simp only [String.append_assoc]
  exact .ifElse (eval_fieldOf known rfl) Iff.rfl
    (fun _ =>
      .cons (.text _) <|
      .cons (.value (eval_fieldOf known rfl)) <|
      .cons (.value (eval_fieldOf known rfl)) <|
      .cons (.text _) <|
      .cons (.value (eval_partOf known rfl rfl)) <|
      .one (.text _))
    (fun _ =>
      .cons (.text _) <|
      .cons (.value (eval_fieldOf known rfl)) <|
      .cons (.value (eval_fieldOf known rfl)) <|
      .cons (.text _) <|
      .cons (.value (eval_partOf known rfl rfl)) <|
      .one (.text _))

theorem signatureTree_writes (known : Stands s "method" (methodValue c m)) :
    AllWrite embed (levels + 1) s signatureTree
      ("   */\n  " ++ signature m) := by
  unfold signature
  simp only [String.append_assoc]
  exact .cons (.text _) <|
    .cons (.value (eval_fieldOf known rfl)) <|
    .cons (.text _) <|
    .cons (.each (eval_fieldOf known rfl) fun _ _ _ _ inside =>
      .one (argumentLineTree_writes inside.item)) <|
    .cons (.text _) <|
    .cons (.optional (eval_not (eval_fieldOf known rfl)) Iff.rfl fun _ =>
      .one (.text _)) <|
    .cons (.text _) <|
    .one (.value (eval_fieldOf known rfl))

theorem copyTree_writes (known : Stands s "p" (argumentValue a))
    (before middle after : String) :
    AllWrite embed levels s (copyTree before middle after)
      (copied a before middle after) := by
  unfold copied
  simp only [String.append_assoc]
  exact .cons (.text _) <|
    .cons (.value (eval_fieldOf known rfl)) <|
    .cons (.text _) <|
    .cons (.value (eval_fieldOf known rfl)) <|
    .cons (.text _) <|
    .cons (.value (eval_fieldOf known rfl)) <|
    .one (.text _)

theorem headerTree_writes (known : Stands s "h" (headerValue h)) :
    AllWrite embed levels s headerTree (headerLine h) := by
  unfold headerLine
  simp only [String.append_assoc]
  exact .cons (.text _) <|
    .cons (.value (eval_fieldOf known rfl)) <|
    .cons (.text _) <|
    .cons (.value (eval_fieldOf known rfl)) <|
    .one (.text _)

theorem queryTree_writes (known : Stands s "p" (argumentValue a)) :
    queryTree.Writes embed levels s (queryCode a) := by
  have single : (fieldOf "p" "is_singleton").eval s =
      .ok (flag a.singleton.isSome) := eval_fieldOf known rfl
  have literal : (fieldOf "p" "singleton_literal").eval s =
      .ok (.ofOption (a.singleton.map Json.compact)) := eval_fieldOf known rfl
  unfold queryCode
  simp only [String.append_assoc]
  cases only : a.singleton with
  | some value =>
      rw [only] at single literal
      exact .ifTrue single rfl <|
        .cons (.text _) <|
        .cons (.value (eval_fieldOf known rfl)) <|
        .cons (.text _) <|
        .cons (.value literal) <|
        .one (.text _)
  | none =>
      rw [only] at single
      exact .ifFalse single rfl <| .one <|
        .ifElse (eval_fieldOf known rfl) Iff.rfl
          (fun _ =>
            .cons (.text _) <|
            .cons (.value (eval_fieldOf known rfl)) <|
            .one (.text _))
          (fun _ => copyTree_writes known _ _ _)

theorem missingTree_writes (known : Stands s "p" (argumentValue a)) :
    AllWrite embed levels s missingTree (missingCode a) := by
  have message : (Expr.filter "string_literal" (.binary .concat
      (.const (.text "Missing required path parameter: "))
      (fieldOf "p" "name")) []).eval s =
        .ok (.text (Text.quote
          ("Missing required path parameter: " ++ a.name))) := by
    rw [Expr.eval, Expr.eval, eval_fieldOf known rfl]
    rfl
  unfold missingCode
  simp only [String.append_assoc]
  exact .cons (.text _) <|
    .cons (.value (eval_fieldOf known rfl)) <|
    .cons (.text _) <|
    .cons (.value message) <|
    .one (.text _)

/-- The tests for the place of an argument go from the query to the path. -/
theorem argumentTree_writes (known : Stands s "p" (argumentValue a)) :
    argumentTree.Writes embed levels s (argumentCode a) := by
  have query : (fieldOf "p" "is_query_parameter").eval s =
      .ok (flag (a.place = .query)) := eval_fieldOf known rfl
  have header : (fieldOf "p" "is_header_parameter").eval s =
      .ok (flag (a.place = .header)) := eval_fieldOf known rfl
  have form : (fieldOf "p" "is_form_parameter").eval s =
      .ok (flag (a.place = .form)) := eval_fieldOf known rfl
  have path : (Expr.binary .and (fieldOf "p" "is_path_parameter")
      (fieldOf "p" "is_required")).eval s =
        .ok (flag (a.place = .path && a.required)) :=
    eval_and (eval_fieldOf known rfl) (eval_fieldOf known rfl)
  unfold argumentCode
  cases place : a.place with
  | query =>
      rw [place] at query
      exact .ifTrue query rfl <| .one (queryTree_writes known)
  | header =>
      rw [place] at query header
      exact .ifFalse query rfl <| .one <| .ifTrue header rfl <|
        copyTree_writes known _ _ _
  | form =>
      rw [place] at query header form
      exact .ifFalse query rfl <| .one <| .ifFalse header rfl <| .one <|
        .ifTrue form rfl <| copyTree_writes known _ _ _
  | path =>
      rw [place] at query header form path
      refine .ifFalse query rfl <| .one <| .ifFalse header rfl <| .one <|
        .ifFalse form rfl <| .one <| .optional path ?_ fun _ =>
          missingTree_writes known
      simp [flag, Value.isTrue]
  | body | unrecognized =>
      rw [place] at query header form path
      exact .ifFalse query rfl <| .one <| .ifFalse header rfl <| .one <|
        .ifFalse form rfl <| .one <| .ifFalse path rfl .nil

theorem methodBodyTree_writes (known : Stands s "method" (methodValue c m)) :
    AllWrite embed (levels + 1) s methodBodyTree (methodBody m) := by
  unfold methodBody
  simp only [String.append_assoc]
  exact .cons (.text _) <|
    .cons (.each (eval_fieldOf known rfl) fun _ _ _ _ inside =>
      headerTree_writes inside.item) <|
    .cons (.text _) <|
    .cons (.optional (eval_fieldOf known rfl) Iff.rfl fun _ =>
      .one (.text _)) <|
    .one (.each (eval_fieldOf known rfl) fun _ _ _ _ inside =>
      .one (argumentTree_writes inside.item))

/-- Between the items of a list, but not after the last one. -/
theorem join_separated (separator : String) (xs : List String) (k : Nat) :
    String.join ((xs.zipIdx k).map fun x =>
      x.1 ++ if !decide (x.2 + 1 = k + xs.length) then separator else "") =
        separator.intercalate xs := by
  induction xs generalizing k with
  | nil => rfl
  | cons x xs induction =>
      have length : k + 1 + xs.length = k + (x :: xs).length := by
        rw [List.length_cons]
        omega
      have rest := induction (k + 1)
      rw [length] at rest
      rw [List.zipIdx_cons, List.map_cons, String.join_cons, rest]
      cases xs <;> simp

theorem kinds_write {kinds : List String}
    (listed : (fieldOf "method" "security_kinds").eval s = .ok (.texts kinds)) :
    Node.Writes embed (levels + 1) s
      (forEach "kind" (fieldOf "method" "security_kinds")
        [.text "'", .output (.name "kind"), .text "'",
          whenever (.not (fieldOf "loop" "last")) [.text ", "]])
      (", ".intercalate (kinds.map fun kind => "'" ++ kind ++ "'")) := by
  have separated := join_separated ", "
    (kinds.map fun kind => "'" ++ kind ++ "'") 0
  rw [List.zipIdx_map, List.map_map] at separated
  rw [← separated]
  refine .loop listed fun x _ inner inside => ?_
  have last : (fieldOf "loop" "last").eval inner =
      .ok (flag (x.2 + 1 = kinds.length)) := by
    rw [Expr.eval, inside.loop (by decide)]
    simp [loopObject, Value.field, Value.fieldOf, flag]
  simp only [Function.comp, Prod.map, id, List.length_map, Nat.zero_add,
    String.append_assoc]
  exact .cons (.text _) <|
    .cons (.value inside.item) <|
    .cons (.text _) <|
    .one (.optional (eval_not last) Iff.rfl fun _ => .one (.text _))

theorem sendTree_writes (known : Stands s "method" (methodValue c m)) :
    AllWrite embed (levels + 1) s sendTree (sendCode m) := by
  have body : (fieldOf "method" "body_name_literal").eval s =
      .ok (.ofOption (bodyLiteral m)) := eval_fieldOf known rfl
  unfold sendCode
  simp only [String.append_assoc]
  exact .cons (.text _) <|
    .cons (.value (eval_fieldOf known rfl)) <|
    .cons (.text _) <|
    .cons (.value (eval_fieldOf known rfl)) <|
    .cons (.text _) <|
    .cons (.value (eval_fieldOf known rfl)) <|
    .cons (.text _) <|
    .cons (.given body fun _ given =>
      .cons (.text _) <|
      .cons (.value given) <|
      .one (.text _)) <|
    .cons (.optional (eval_fieldOf known rfl) Iff.rfl fun _ =>
      .one (.text _)) <|
    .cons (.optional (eval_fieldOf known rfl) Iff.rfl fun _ =>
      .cons (.text _) <|
      .cons (kinds_write (eval_fieldOf known rfl)) <|
      .one (.text _)) <|
    .one (.text _)

theorem methodTree_writes (known : Stands s "method" (methodValue c m)) :
    AllWrite embed (levels + 1) s methodTree (written (methodParts m)) := by
  have aligned : written (methodParts m) =
      "  /**\n" ++ methodNote m ++ ("   */\n  " ++ signature m ++
        (methodBody m ++ sendCode m)) := by
    simp [methodParts, Part.text, ← String.toList_inj]
  rw [aligned]
  exact (methodNoteTree_writes known).append <|
    (signatureTree_writes known).append <|
    (methodBodyTree_writes known).append (sendTree_writes known)

end Records

end ApiBindings.Rendering
