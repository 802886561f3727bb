import ApiBindings.Proofs.Bindings.Assembly
import ApiBindings.Proofs.Conversion.Steps
import ApiBindings.Proofs.Naming.Identifiers
import ApiBindings.Proofs.Rendering.Files
import Mathlib.Data.Bool.AllAny

/-!
The names that a file declares. They stand in the code without quotes, and they
are identifiers if the texts they come from are spelled plainly enough.
-/

namespace ApiBindings

open Naming (IsIdentifier SpelledWith LeadsWithLetter)

namespace Rendering

def methodOpening (m : Method) : String :=
  "\n  " ++ m.name ++ "(parameters: \x7b\n"

def declarationOpening (d : TypeDeclaration) : String :=
  (if d.type.kind = .object then "export interface " else "export type ") ++
    d.name ++ " "

variable {parts : List Part} {part : Part} {b : Bindings}

theorem infix_written (member : part ∈ parts) :
    part.text.toList <:+: (written parts).toList := by
  obtain ⟨before, after, rfl⟩ := List.append_of_mem member
  refine ⟨(written before).toList, (written after).toList, ?_⟩
  rw [written_append, written_cons, String.toList_append, String.toList_append,
    List.append_assoc]

theorem infix_of_code {s : String} {start : List Char} (member : .code s ∈ parts)
    (begins : start <+: s.toList) : start <:+: (written parts).toList :=
  begins.isInfix.trans (infix_written member)

theorem methodOpening_infix {m : Method} (member : m ∈ b.methods) :
    (methodOpening m).toList <:+: (written (clientLayout.parts b)).toList := by
  have listed : Part.code ("\n  " ++ signature m ++ methodBody m ++ sendCode m) ∈
      clientLayout.parts b := by
    have here : Part.code ("\n  " ++ signature m ++ methodBody m ++ sendCode m) ∈
        clientLayout.method m := by
      simp [clientLayout, methodParts]
    simp only [Layout.parts, List.mem_append, List.mem_flatMap]
    exact .inl (.inr ⟨m, member, here⟩)
  refine infix_of_code listed ?_
  simp [methodOpening, signature, List.append_assoc]

theorem declarationOpening_infix {d : TypeDeclaration}
    (member : d ∈ b.definitions) :
    (declarationOpening d).toList <:+:
      (written (clientLayout.parts b)).toList := by
  obtain ⟨s, here, begins⟩ : ∃ s, Part.code s ∈ clientLayout.declaration d ∧
      (declarationOpening d).toList <+: s.toList := by
    by_cases object : d.type.kind = .object
    · refine ⟨"export interface " ++ d.name ++ " \x7b\n", ?_, ?_⟩
      · simp [clientLayout, declarationParts, object]
      · simp [declarationOpening, object]
    · refine ⟨"export type " ++ d.name ++ " = " ++ d.type.inline ++ ";\n", ?_, ?_⟩
      · simp [clientLayout, declarationParts, object]
      · simp [declarationOpening, object]
  refine infix_of_code ?_ begins
  simp only [Layout.parts, List.mem_append, List.mem_flatMap]
  exact .inl (.inl (.inl (.inr ⟨d, member, here⟩)))

end Rendering

namespace Document

open Rendering

variable {doc : Document} {options : Options} {b : Bindings} {r : Route}
  {m : Method} {entry : String × Schema} {d : TypeDeclaration}

theorem isIdentifier_of_describes {id : String}
    (described : doc.Describes options r m)
    (given : r.operation.operationId = some id) :
    m.name = Naming.identifier id ∧ (IsIdentifier m.name ↔
      SpelledWith ['_', '$', '.', '-', '\x7b', '\x7d'] id) := by
  obtain ⟨_, _, rfl⟩ := described
  have named : r.operation.operationId.elim (Naming.methodName r.verb r.path)
      Naming.identifier = Naming.identifier id := by
    rw [given, Option.elim_some]
  refine ⟨named, ?_⟩
  rw [← Naming.isIdentifier_identifier, ← named]
  rfl

theorem isIdentifier_of_declares (declared : doc.Declares entry d) :
    d.name = Naming.typeName entry.1 ∧
      ((∀ c ∈ entry.1.toList, Text.isAscii c = true) →
        (IsIdentifier d.name ↔ LeadsWithLetter entry.1)) := by
  obtain ⟨_, _, rfl⟩ := declared
  exact ⟨rfl, Naming.isIdentifier_typeName⟩

/-- The names of a client file are identifiers just if the identifiers of its
operations are spelled with letters, digits and a few signs, and a letter comes
before any digit in the names of its definitions. -/
theorem declared_names_legal_iff (ok : (doc.bindings options).result = .ok b) :
    (∃ text, (b.render .client {} ∅).result = .ok text ∧
      (∀ m ∈ b.methods, (methodOpening m).toList <:+: text.toList) ∧
      ∀ d ∈ b.definitions, (declarationOpening d).toList <:+: text.toList) ∧
    List.Forall₂ (fun r m => m.verb = r.verb ∧ m.path = r.path ∧
        ∀ id, r.operation.operationId = some id →
          m.name = Naming.identifier id ∧ (IsIdentifier m.name ↔
            SpelledWith ['_', '$', '.', '-', '\x7b', '\x7d'] id))
      (doc.keptRoutes options) b.methods ∧
    List.Forall₂ (fun entry d => d.name = Naming.typeName entry.1 ∧
        ((∀ c ∈ entry.1.toList, Text.isAscii c = true) →
          (IsIdentifier d.name ↔ LeadsWithLetter entry.1)))
      doc.definitions.entries b.definitions := by
  have assembled := assembled_of_bindings ok
  refine ⟨⟨_, Bindings.result_render_of_layout rfl nofun,
    fun m => methodOpening_infix, fun d => declarationOpening_infix⟩, ?_, ?_⟩
  · refine assembled.methods.imp fun r m described => ?_
    refine ⟨?_, ?_, fun id => isIdentifier_of_describes described⟩
    all_goals
      obtain ⟨_, _, rfl⟩ := described
      rfl
  · exact assembled.definitions.imp fun entry d => isIdentifier_of_declares

def registry (id definition : String) : Document :=
  { version := supportedVersion
    info := { title := "Registry", version := "1" }
    paths :=
      ⟨[("/files",
          { operations := ⟨[(.get, { operationId := some id })], by simp⟩ })],
        by simp⟩
    definitions := ⟨[(definition, .inline { type := some .number })], by simp⟩ }

variable (id definition : String)

theorem succeeds_registry : ((registry id definition).bindings {}).Succeeds := by
  rw [succeeds_bindings]
  refine ⟨rfl, ?_, ?_⟩
  · intro r listed use used
    obtain rfl : r = ⟨"/files", .get, { operationId := some id }, []⟩ := by
      simpa [routes, registry] using listed
    simp [Route.uses] at used
  · intro entry listed
    obtain rfl : entry = (definition, .inline { type := some .number }) := by
      simpa [registry] using listed
    rw [definitionType, Conversion.convert_of_primitive rfl]
    exact Traced.succeeds_pure _

variable {id definition}

theorem records_of_registry (assembled : (registry id definition).Assembled {} b) :
    ∃ m d, b.methods = [m] ∧ m.name = Naming.identifier id ∧
      b.definitions = [d] ∧ d.name = Naming.typeName definition := by
  obtain ⟨m, _, described, ⟨⟩, method⟩ :=
    List.forall₂_cons_left_iff.mp assembled.methods
  obtain ⟨d, _, declared, ⟨⟩, declaration⟩ :=
    List.forall₂_cons_left_iff.mp assembled.definitions
  exact ⟨m, d, method, (isIdentifier_of_describes described rfl).1,
    declaration, (isIdentifier_of_declares declared).1⟩

theorem registry_names_are_legal :
    ∃ b, ((registry "files.list-\x7ball\x7d" "pet-store.model").bindings {}).result =
        .ok b ∧
      ∃ m d, b.methods = [m] ∧ m.name = "files_list__all_" ∧
        b.definitions = [d] ∧ d.name = "PetStoreModel" ∧
        IsIdentifier m.name ∧ IsIdentifier d.name := by
  obtain ⟨b, ok⟩ := succeeds_registry "files.list-\x7ball\x7d" "pet-store.model"
  obtain ⟨m, d, method, id, declaration, name⟩ :=
    records_of_registry (assembled_of_bindings ok)
  obtain ⟨_, methods, declarations⟩ := declared_names_legal_iff ok
  rw [method] at methods
  rw [declaration] at declarations
  obtain ⟨⟨_, _, legal⟩, _⟩ := List.forall₂_cons.mp methods
  obtain ⟨⟨_, safe⟩, _⟩ := List.forall₂_cons.mp declarations
  refine ⟨b, ok, m, d, method, ?_, declaration, ?_, ?_, ?_⟩
  · rw [id]
    decide
  · rw [name]
    decide +kernel
  · apply (legal _ rfl).2.mpr
    refine ⟨'f', _, rfl, .inl (by decide), ?_⟩
    exact List.all_iff_forall_prop.mp (by decide)
  · apply (safe (List.all_eq_true.mp (by decide))).mpr
    exact ⟨'p', by decide, by decide⟩

/-- A blank is kept, and a number may come first. -/
theorem registry_names_are_illegal :
    ∃ b, ((registry "list files" "404").bindings {}).result = .ok b ∧
      ∃ m d, b.methods = [m] ∧ m.name = "list files" ∧
        b.definitions = [d] ∧ d.name = "404" ∧
        ¬ IsIdentifier m.name ∧ ¬ IsIdentifier d.name := by
  obtain ⟨b, ok⟩ := succeeds_registry "list files" "404"
  obtain ⟨m, d, method, id, declaration, name⟩ :=
    records_of_registry (assembled_of_bindings ok)
  have blank : m.name = "list files" := by
    rw [id]
    decide
  have number : d.name = "404" := by
    rw [name]
    decide +kernel
  refine ⟨b, ok, m, d, method, blank, declaration, number, ?_, ?_⟩
  · rw [blank]
    decide
  · rw [number]
    decide

end Document

end ApiBindings
