import ApiBindings.Proofs.Bindings.Records
import ApiBindings.Proofs.Rendering.Files
import ApiBindings.Proofs.Text.Comments

/-!
Comments in files. Most texts go into them escaped; the rest decides whether a
comment ends early.
-/

namespace ApiBindings

namespace Rendering

open Template Text

/-- A comment ends only with its last sign. -/
def Part.Intact : Part → Prop
  | code _ => True
  | comment s => Quiet ("/**" ++ s ++ "*").toList

theorem quiet_escapeComment (s : String) : Quiet (escapeComment s).toList := by
  rw [escapeComment, String.toList_ofList]
  exact quiet_replaceFrom 0 s.toList

theorem getLast?_append_ne {left right : List Char}
    (short : right = [] → left.getLast? ≠ some '*')
    (last : right.getLast? ≠ some '*') :
    (left ++ right).getLast? ≠ some '*' := by
  cases right with
  | nil => simpa using short rfl
  | cons c right => rwa [List.getLast?_append_of_ne_nil _ (List.cons_ne_nil c right)]

theorem begins_append {s : String} {c : Char} (begins : s.toList.head? = some c)
    (t : String) : (s ++ t).toList.head? = some c := by
  rw [String.toList_append, List.head?_append, begins, Option.some_or]

/-- A text is quiet just if a condition is met, and no end of a comment begins
with its last sign. -/
structure QuietIf (s : String) (p : Prop) : Prop where
  iff : Quiet s.toList ↔ p
  last : s.toList.getLast? ≠ some '*'

namespace QuietIf

variable {s t : String} {p q : Prop}

theorem congr (told : QuietIf s p) (same : p ↔ q) : QuietIf s q :=
  ⟨told.iff.trans same, told.last⟩

theorem literal (quiet : Quiet s.toList ∧ s.toList.getLast? ≠ some '*') :
    QuietIf s True :=
  ⟨iff_true_intro quiet.1, quiet.2⟩

theorem append (first : QuietIf s p) (rest : QuietIf t q) :
    QuietIf (s ++ t) (p ∧ q) where
  iff := by
    rw [String.toList_append, quiet_append (.inl first.last), first.iff,
      rest.iff]
  last := by
    rw [String.toList_append]
    exact getLast?_append_ne (fun _ => first.last) rest.last

/-- Any text may stand before a sign that does not end a comment. -/
theorem before (s : String) {c : Char} (begins : t.toList.head? = some c)
    (plain : c ≠ '/') (rest : QuietIf t q) :
    QuietIf (s ++ t) (Quiet s.toList ∧ q) where
  iff := by
    have apart : t.toList.head? ≠ some '/' := by simp [begins, plain]
    rw [String.toList_append, quiet_append (.inr apart), rest.iff]
  last := by
    rw [String.toList_append]
    refine getLast?_append_ne (fun empty => ?_) rest.last
    simp [empty] at begins

theorem escaped (s : String) {c : Char} (begins : t.toList.head? = some c)
    (plain : c ≠ '/') (rest : QuietIf t q) :
    QuietIf (escapeComment s ++ t) q :=
  (before _ begins plain rest).congr
    (and_iff_right (quiet_escapeComment s))

theorem join {α : Type} {f : α → String} {p : α → Prop}
    (each : ∀ x, QuietIf (f x) (p x)) (xs : List α) :
    QuietIf (String.join (xs.map f)) (∀ x ∈ xs, p x) := by
  induction xs with
  | nil => exact ⟨by simp [quiet_nil], by simp⟩
  | cons x xs induction =>
      rw [List.map_cons, String.join_cons, List.forall_mem_cons]
      exact (each x).append induction

theorem given {write : String → String}
    (each : ∀ x, QuietIf (write x) True) (o : Option String) :
    QuietIf (ifGiven o write) True := by
  unfold ifGiven
  cases filled o with
  | none => exact literal ⟨quiet_nil, by simp⟩
  | some x => exact each x

theorem optional (c : Bool) (yes : QuietIf s True) :
    QuietIf (if c then s else "") True := by
  cases c with
  | true => exact yes
  | false => exact literal ⟨quiet_nil, by simp⟩

end QuietIf

theorem head?_escapeComment (s : String) :
    (escapeComment (" " ++ s)).toList.head? = some ' ' := by
  rw [escapeComment, String.toList_ofList, String.toList_append]
  rfl

theorem quietIf_argumentNote (a : Argument) :
    QuietIf (argumentNote a) (Quiet a.name.toList) := by
  unfold argumentNote ifGiven
  simp only [String.append_assoc]
  cases filled a.description with
  | none =>
      refine (QuietIf.append (.literal (by decide)) <|
        .before _ rfl (by decide) <|
        .literal (by decide)).congr ?_
      simp
  | some d =>
      refine (QuietIf.append (.literal (by decide)) <|
        .before _ (begins_append (head?_escapeComment d) _) (by decide) <|
        .escaped _ rfl (by decide) <|
        .literal (by decide)).congr ?_
      simp

theorem quietIf_docsNote (docs : Option ExternalDocs) :
    QuietIf (docsNote docs) (∀ d ∈ docs, Quiet d.url.toList) := by
  cases docs with
  | none =>
      exact (QuietIf.literal (s := "") ⟨quiet_nil, by decide⟩).congr (by simp)
  | some d =>
      rw [docsNote, Option.elim_some, String.append_assoc]
      refine (QuietIf.append (.literal (by decide)) <|
        .before _ rfl (by decide) <|
        .literal (by decide)).congr ?_
      simp

theorem quiet_verb (v : Verb) : Quiet v.name.toList := by
  cases v <;> decide

theorem quietIf_methodNote (m : Method) :
    QuietIf (methodNote m)
      (Quiet m.path.toList ∧ (∀ a ∈ m.arguments, Quiet a.name.toList) ∧
        ∀ d ∈ m.externalDocs, Quiet d.url.toList) := by
  unfold methodNote
  simp only [String.append_assoc]
  refine (QuietIf.append (.given (fun s =>
      (QuietIf.append (.literal (by decide)) <|
        .escaped _ rfl (by decide) <|
        .literal (by decide)).congr (by simp)) m.summary) <|
    .append (.literal (by decide)) <|
    .before _ (begins_append rfl _) (by decide) <|
    .append (.literal (by decide)) <|
    .before _ (begins_append rfl _) (by decide) <|
    .append (.literal (by decide)) <|
    .append (.join quietIf_argumentNote m.arguments) <|
    .append (quietIf_docsNote m.externalDocs) <|
    .optional _ (.literal (by decide))).congr ?_
  simp [quiet_verb]

def QuietNote (m : Method) : Prop :=
  Quiet m.path.toList ∧ (∀ a ∈ m.arguments, Quiet a.name.toList) ∧
    ∀ d ∈ m.externalDocs, Quiet d.url.toList

namespace Part

theorem intact_comment {s : String} {p : Prop} {c : Char}
    (begins : s.toList.head? = some c) (plain : c ≠ '/') (told : QuietIf s p) :
    (comment s).Intact ↔ p := by
  have opening : s.toList.head? ≠ some '/' := by simp [begins, plain]
  rw [Intact, String.toList_append, quiet_append (.inr (by decide)),
    String.toList_append, quiet_append (.inr opening), told.iff]
  exact ⟨fun intact => intact.1.2, fun given => ⟨⟨by decide, given⟩, by decide⟩⟩

theorem intact_note (before s after : String) {c d : Char}
    (begins : before.toList.head? = some c) (plain : c ≠ '/')
    (first : QuietIf before True) (goesOn : after.toList.head? = some d)
    (harmless : d ≠ '/') (rest : QuietIf after True) :
    (comment (before ++ escapeComment s ++ after)).Intact := by
  rw [String.append_assoc, intact_comment (begins_append begins _) plain
    (first.append (.escaped s goesOn harmless rest))]
  exact ⟨trivial, trivial⟩

end Part

def AllIntact (parts : List Part) : Prop := ∀ p ∈ parts, p.Intact

section Lists

variable {first second : List Part} {p : Part}

theorem allIntact_append :
    AllIntact (first ++ second) ↔ AllIntact first ∧ AllIntact second :=
  List.forall_mem_append

theorem allIntact_comment {s : String} :
    AllIntact (.comment s :: first) ↔ (Part.comment s).Intact ∧ AllIntact first :=
  List.forall_mem_cons

@[simp] theorem allIntact_code {s : String} :
    AllIntact (.code s :: first) ↔ AllIntact first :=
  List.forall_mem_cons.trans (iff_of_eq (true_and _))

@[simp] theorem allIntact_nil : AllIntact [] := nofun

theorem allIntact_flatMap {α : Type} {f : α → List Part} {xs : List α} :
    AllIntact (xs.flatMap f) ↔ ∀ x ∈ xs, AllIntact (f x) := by
  simp only [AllIntact, List.mem_flatMap]
  grind

end Lists

theorem allIntact_propertyParts (p : Property TypeExpr) :
    AllIntact (propertyParts p) := by
  unfold propertyParts
  cases filled p.type.description with
  | none => simp
  | some d =>
      have intact := Part.intact_note " " d " " rfl (by decide)
        (.literal (by decide)) rfl (by decide)
        (.literal (by decide))
      simpa [allIntact_comment] using intact

theorem allIntact_declarationParts (d : TypeDeclaration) :
    AllIntact (declarationParts d) := by
  unfold declarationParts
  refine allIntact_append.mpr ⟨?_, ?_⟩
  · cases filled d.description with
    | none => simp
    | some d =>
        have intact := Part.intact_note "\n * " d "\n " rfl (by decide)
          (.literal (by decide)) rfl (by decide)
          (.literal (by decide))
        simpa [allIntact_comment] using intact
  · split
    · simp [allIntact_append, allIntact_flatMap, allIntact_propertyParts]
    · simp

theorem allIntact_methodParts {m : Method} :
    AllIntact (methodParts m) ↔ QuietNote m := by
  have told : QuietIf ("\n" ++ methodNote m ++ "   ") (QuietNote m) :=
    ((QuietIf.literal (by decide)).append (quietIf_methodNote m)
      |>.append (.literal (by decide))).congr (by simp [QuietNote])
  have note := Part.intact_comment (begins_append (begins_append rfl _) _)
    (by decide) told
  simp [methodParts, allIntact_comment, note]

theorem allIntact_requestParts : AllIntact requestParts := by
  have intact : (Part.comment requestNote).Intact :=
    (Part.intact_comment rfl (by decide)
      (.literal (by decide +kernel))).mpr trivial
  simp [requestParts, allIntact_comment, intact]

theorem allIntact_headParts {info : BindingsInfo} :
    AllIntact (headParts info) ↔ Quiet info.moduleName.toList := by
  have told : QuietIf ("\n * " ++ info.moduleName ++
      ifGiven info.description (fun d => ": " ++ escapeComment d) ++
      "\n *\n * Generated by stg. Do not edit by hand.\n ")
      (Quiet info.moduleName.toList) := by
    have rest : QuietIf
        "\n *\n * Generated by stg. Do not edit by hand.\n " True :=
      .literal (by decide +kernel)
    have opening : QuietIf "\n * " True := .literal (by decide)
    unfold ifGiven
    cases filled info.description with
    | none =>
        simp only [Option.elim_none, String.append_assoc, String.empty_append]
        exact (opening.append (.before _ rfl (by decide) rest)).congr (by simp)
    | some d =>
        simp only [Option.elim_some, String.append_assoc]
        exact (opening.append <|
          .before _ (begins_append rfl _) (by decide) <|
          .append (.literal (by decide)) <|
          .escaped _ rfl (by decide) rest).congr (by simp)
  have note := Part.intact_comment
    (begins_append (begins_append (begins_append rfl _) _) _) (by decide) told
  simp [headParts, allIntact_comment, note]

theorem allIntact_typesHead {info : BindingsInfo} {imports : List String} :
    AllIntact (typesLayout.head info imports) ↔
      Quiet info.moduleName.toList := by
  have told : QuietIf ("\n * Types for " ++ info.moduleName ++
      ".\n *\n * Generated by stg. Do not edit by hand.\n ")
      (Quiet info.moduleName.toList) := by
    rw [String.append_assoc]
    exact ((QuietIf.literal (by decide)).append <|
      .before _ rfl (by decide) <|
      .literal (by decide +kernel)).congr (by simp)
  have note := Part.intact_comment (begins_append (begins_append rfl _) _)
    (by decide) told
  simp [typesLayout, allIntact_comment, note]

/-- Declarations never end a comment early; a method may, where it has a
comment. -/
theorem allIntact_parts {mode : Mode} {l : Layout}
    (known : layout? mode = some l) (b : Bindings) :
    AllIntact (l.parts b) ↔
      Quiet b.info.moduleName.toList ∧
        (mode ≠ .types → ∀ m ∈ b.methods, QuietNote m) := by
  unfold Layout.parts
  simp only [allIntact_append, allIntact_flatMap]
  cases mode with
  | client =>
      cases known
      simp [clientLayout, allIntact_append, allIntact_headParts,
        allIntact_requestParts, allIntact_declarationParts,
        allIntact_methodParts]
  | types =>
      cases known
      rw [allIntact_typesHead]
      simp [typesLayout, allIntact_append, allIntact_declarationParts]
  | classWrapper =>
      cases known
      simp [classWrapperLayout, allIntact_append, allIntact_headParts,
        allIntact_requestParts, allIntact_methodParts]
  | custom => cases known

end Rendering

namespace Document

open Rendering Text

variable {doc : Document} {options : Options} {r : Route} {m : Method}
  {b : Bindings} {mode : Mode}

/-- The texts of a route that its method's comment shows as they are. -/
def Route.IsQuiet (doc : Document) (r : Route) : Prop :=
  Quiet r.path.toList ∧ (∀ p ∈ doc.keptParameters r, Quiet p.name.toList) ∧
    ∀ d ∈ r.operation.externalDocs, Quiet d.url.toList

theorem quietNote_iff (described : doc.Describes options r m) :
    QuietNote m ↔ r.IsQuiet doc := by
  obtain ⟨arguments, given, rfl⟩ := described
  have names : (∀ p ∈ doc.keptParameters r, Quiet p.name.toList) ↔
      ∀ a ∈ arguments, Quiet a.name.toList := by
    refine forall_mem_of_forall₂ given ?_
    rintro p _ ⟨t, _, rfl⟩
    rfl
  rw [Route.IsQuiet, names]
  rfl

theorem allIntact_of_bindings {l : Layout}
    (ok : (doc.bindings options).result = .ok b)
    (known : layout? mode = some l) :
    AllIntact (l.parts b) ↔
      Quiet options.moduleName.toList ∧
        (mode ≠ .types → ∀ r ∈ doc.keptRoutes options, r.IsQuiet doc) := by
  have info : b.info = doc.bindingsInfo options := by
    obtain ⟨_, outcomes, declarations, _, _, rfl⟩ := result_bindings_eq_ok.mp ok
    rw [← Bindings.ofRecords, Bindings.info_ofRecords]
  have routes := forall_mem_of_forall₂ (assembled_of_bindings ok).methods
    fun r m described => (quietNote_iff described).symm
  rw [allIntact_parts known, info, routes]
  rfl

/-- Comments end early only through texts that are not escaped: the name of the
module, and of each method the path, the names of its arguments and the address
of its documentation. -/
theorem comments_intact_iff {extra : OrderedMap String Json}
    (ok : (doc.bindings options).result = .ok b) (known : mode ≠ .custom)
    (fresh : ∀ key ∈ extra.keys, key ∉ (bindingsFields b).map Prod.fst) :
    ∃ l, layout? mode = some l ∧
      (b.render mode {} extra).result = .ok (written (l.parts b)) ∧
      ((∀ p ∈ l.parts b, p.Intact) ↔
        Quiet options.moduleName.toList ∧
          (mode ≠ .types → ∀ r ∈ doc.keptRoutes options, r.IsQuiet doc)) := by
  obtain ⟨l, laid⟩ := exists_layout known
  exact ⟨l, laid, Bindings.result_render_of_layout laid fresh,
    allIntact_of_bindings ok laid⟩

/-- Its summary and description are written as if to end a comment. -/
def archive (path : String) : Document :=
  { version := supportedVersion
    info := { title := "Archive", version := "1", description := some "*/" }
    paths :=
      ⟨[(path, { operations := ⟨[(.get, { summary := some "*/" })],
          by simp⟩ })], by simp⟩ }

theorem succeeds_archive (path : String) :
    ((archive path).bindings {}).Succeeds := by
  rw [succeeds_bindings]
  refine ⟨rfl, ?_, nofun⟩
  intro r listed use used
  obtain rfl : r = ⟨path, .get, { summary := some "*/" }, []⟩ := by
    simpa [routes, archive] using listed
  cases used

theorem keptRoutes_archive (path : String) :
    (archive path).keptRoutes {} =
      [⟨path, .get, { summary := some "*/" }, []⟩] := rfl

theorem archive_keeps_its_comments :
    Mode.client ≠ .custom ∧
      ∃ b, ((archive "/files").bindings {}).result = .ok b ∧
        ∃ l, layout? .client = some l ∧
          (b.render .client {} ∅).result = .ok (written (l.parts b)) ∧
          ∀ p ∈ l.parts b, p.Intact := by
  refine ⟨by decide, ?_⟩
  obtain ⟨b, ok⟩ := succeeds_archive "/files"
  obtain ⟨l, laid, text, intact⟩ := comments_intact_iff ok
    (by decide : Mode.client ≠ .custom)
    fun key (listed : key ∈ (∅ : OrderedMap String Json).keys) =>
      absurd listed List.not_mem_nil
  refine ⟨b, ok, l, laid, text, intact.mpr ⟨by decide, fun _ r listed => ?_⟩⟩
  rw [keptRoutes_archive, List.mem_singleton] at listed
  subst listed
  have parameters : (archive "/files").keptParameters
      ⟨"/files", .get, { summary := some "*/" }, []⟩ = [] := rfl
  refine ⟨by decide, ?_, nofun⟩
  rw [parameters]
  exact fun _ listed => absurd listed List.not_mem_nil

theorem archive_ends_a_comment :
    ∃ b, ((archive "/files/*/raw").bindings {}).result = .ok b ∧
      (b.render .client {} ∅).result = .ok (written (clientLayout.parts b)) ∧
      ∃ p ∈ clientLayout.parts b, ¬ p.Intact := by
  obtain ⟨b, ok⟩ := succeeds_archive "/files/*/raw"
  refine ⟨b, ok, Bindings.result_render_of_layout rfl
    fun _ listed => absurd listed List.not_mem_nil, ?_⟩
  by_contra none
  push Not at none
  have laid : layout? .client = some clientLayout := rfl
  obtain ⟨_, quiet⟩ := (allIntact_of_bindings ok laid).mp none
  have path := (quiet (by decide) _ (by rw [keptRoutes_archive]; exact .head _)).1
  revert path
  decide

end Document

end ApiBindings
