import ApiBindings.Proofs.Bindings.Declarations
import ApiBindings.Proofs.Naming.Containers

/-!
The two texts of a type. One is made with the type and names its objects, the
other is read off the finished type and writes their shapes out. They differ
only where there is a shape to write out.
-/

namespace ApiBindings

namespace TypeExpr

inductive Formed : TypeExpr → Prop
  | reference (raw : String) (s : Schema) :
      Formed ((reference (Naming.typeName raw)).describedBy s)
  | choice (literals : List String) (s : Schema) :
      Formed ((choice literals).describedBy s)
  | primitive (p : Primitive) (s : Schema) :
      Formed ((primitive p.name).describedBy s)
  | array {t : TypeExpr} (element : Formed t) (s : Schema) :
      Formed (t.array.describedBy s)
  | map {t : TypeExpr} (value : Formed t) (s : Schema) :
      Formed (t.map.describedBy s)
  | object {properties : List (Property TypeExpr)}
      (types : ∀ p ∈ properties, Formed p.type) (s : Schema) :
      Formed ((object properties).describedBy s)

/-- The elements of a list, not the values of a map. -/
structure ArrayElement (t e : TypeExpr) : Prop where
  kind : t.kind = .array
  shown : t.Element e

/-- Under its lists and maps the type is an object with properties. -/
def EndsInShape (t : TypeExpr) : Prop :=
  ∃ last, Relation.ReflTransGen Element t last ∧ last.kind = .object ∧
    last.properties ≠ []

variable {t e : TypeExpr} {name : String}

theorem Formed.part (formed : t.Formed) {part : TypeExpr} (step : Part t part) :
    part.Formed := by
  cases step with
  | element shown =>
      cases formed with
      | reference | choice | primitive | object => cases shown
      | array element =>
          cases shown
          exact element
      | map value =>
          cases shown
          exact value
  | property listed =>
      cases formed with
      | reference | choice | primitive | array | map => cases listed
      | object types => exact types _ listed

theorem Formed.of_path (formed : t.Formed) {part : TypeExpr}
    (path : Relation.ReflTransGen Part t part) : part.Formed := by
  induction path with
  | refl => exact formed
  | tail _ step induction => exact induction.part step

theorem Formed.element_isSome_iff (formed : t.Formed) :
    t.element.isSome ↔ t.kind = .array ∨ t.kind = .map := by
  cases formed with
  | reference | choice | primitive | object => exact iff_of_false nofun nofun
  | array => exact iff_of_true rfl (.inl rfl)
  | map => exact iff_of_true rfl (.inr rfl)

theorem Formed.properties_eq_nil (formed : t.Formed) (other : t.kind ≠ .object) :
    t.properties = [] := by
  cases formed with
  | reference | choice | primitive | array | map => rfl
  | object => exact absurd rfl other

theorem Formed.text_of_element (formed : t.Formed) (shown : t.Element e) :
    t.kind = .array ∧ t.text = "Array<" ++ e.text ++ ">" ∨
      t.kind = .map ∧ t.text = "\x7b [key: string]: " ++ e.text ++ " \x7d" := by
  cases formed with
  | reference | choice | primitive | object => cases shown
  | array =>
      cases shown
      exact .inl ⟨rfl, rfl⟩
  | map =>
      cases shown
      exact .inr ⟨rfl, rfl⟩

/-- A type has a target only from a reference under its lists and maps. -/
theorem Formed.names_of_importTarget (formed : t.Formed)
    (target : t.importTarget = some name) :
    ∃ last, Relation.ReflTransGen Element t last ∧ last.Names name := by
  induction formed with
  | reference raw s =>
      cases target
      exact ⟨_, .refl, rfl, rfl⟩
  | choice | primitive | object => cases target
  | array _ s induction | map _ s induction =>
      obtain ⟨last, path, names⟩ := induction target
      exact ⟨last, .head rfl path, names⟩

theorem EndsInShape.of_element (shown : t.Element e) :
    t.EndsInShape ↔ e.EndsInShape ∨ t.kind = .object ∧ t.properties ≠ [] := by
  constructor
  · intro ends
    obtain ⟨last, path, shape⟩ := ends
    rcases path.cases_head with rfl | ⟨next, step, rest⟩
    · exact .inr shape
    · obtain rfl := Option.some.inj (shown.symm.trans step)
      exact .inl ⟨last, rest, shape⟩
  · intro ends
    rcases ends with ⟨last, path, shape⟩ | shape
    · exact ⟨last, .head shown path, shape⟩
    · exact ⟨t, .refl, shape⟩

theorem endsInShape_of_plain (plain : t.element = none) :
    t.EndsInShape ↔ t.kind = .object ∧ t.properties ≠ [] := by
  constructor
  · intro ends
    obtain ⟨last, path, shape⟩ := ends
    rcases path.cases_head with rfl | ⟨next, step, _⟩
    · exact shape
    · cases plain.symm.trans step
  · intro shape
    exact ⟨t, .refl, shape⟩

theorem arrayText_inj {a b : String} : arrayText a = arrayText b ↔ a = b := by
  unfold arrayText
  rw [String.append_left_inj]
  exact String.append_right_inj _

theorem mapText_inj {a b : String} : mapText a = mapText b ↔ a = b := by
  unfold mapText
  rw [String.append_left_inj]
  exact String.append_right_inj _

theorem inline_array (t : TypeExpr) (s : Schema) :
    (t.array.describedBy s).inline = arrayText t.inline := by
  rw [describedBy, array, inline]

theorem inline_map (t : TypeExpr) (s : Schema) :
    (t.map.describedBy s).inline = mapText t.inline := by
  rw [describedBy, map, inline]

theorem inline_object_ne_text (p : Property TypeExpr)
    (ps : List (Property TypeExpr)) (s : Schema) :
    ((object (p :: ps)).describedBy s).inline ≠ "object" := by
  intro same
  have signs := congrArg String.toList same
  rw [describedBy, object, inline] at signs
  simp at signs

/-- The texts agree unless there is a shape to write out. -/
theorem Formed.inline_eq_text_iff (formed : t.Formed) :
    t.inline = t.text ↔ ¬ t.EndsInShape := by
  induction formed with
  | reference | choice | primitive =>
      rw [endsInShape_of_plain rfl]
      exact iff_of_true rfl nofun
  | @array t _ s induction =>
      have ends := EndsInShape.of_element (t := t.array.describedBy s) rfl
      rw [inline_array, ends, or_iff_left (fun shape => nomatch shape.1),
        ← induction]
      exact arrayText_inj
  | @map t _ s induction =>
      have ends := EndsInShape.of_element (t := t.map.describedBy s) rfl
      rw [inline_map, ends, or_iff_left (fun shape => nomatch shape.1),
        ← induction]
      exact mapText_inj
  | @object properties _ s _ =>
      rw [endsInShape_of_plain rfl]
      cases properties with
      | nil => exact iff_of_true rfl fun shape => shape.2 rfl
      | cons p ps =>
          refine iff_of_false (inline_object_ne_text p ps s) ?_
          exact fun none => none ⟨rfl, List.cons_ne_nil p ps⟩

theorem Formed.withoutContainers_of_arrays (formed : t.Formed)
    {last : TypeExpr} (path : Relation.ReflTransGen ArrayElement t last)
    (names : last.Names name) : Naming.withoutContainers t.text = name := by
  induction path using Relation.ReflTransGen.head_induction_on with
  | refl =>
      obtain ⟨kind, text⟩ := names
      subst text
      cases formed with
      | reference raw s => exact Naming.withoutContainers_typeName raw
      | choice | primitive | array | map | object => cases kind
  | head step _ induction =>
      obtain ⟨kind, shown⟩ := step
      rcases formed.text_of_element shown with ⟨_, text⟩ | ⟨other, _⟩
      · rw [text, Naming.withoutContainers_list]
        exact induction (formed.part (.element shown))
      · cases kind.symm.trans other

end TypeExpr

namespace Conversion

variable {doc : Document} {active : List String} {s : Schema} {t : TypeExpr}

/-- The induction is on the calls: what an object takes over was formed in one
of them. -/
theorem formed_of_convert (ran : (convert doc active s).result = .ok t) :
    t.Formed := by
  generalize start : (active, s) = first
  induction first using (wellFounded_calls doc).induction
    generalizing active s t
  next first induction =>
    subst start
    cases yields_of_convert ran with
    | reference shape found => exact .reference _ s
    | choice shape => exact .choice _ s
    | primitive shape => exact .primitive _ s
    | array shape element =>
        exact .array (induction _ (.part (.items shape)) element rfl) s
    | map shape value =>
        exact .map (induction _ (.part (.values shape)) value rfl) s
    | object shape parents members =>
        apply TypeExpr.Formed.object
        intro p listed
        rcases List.mem_append.mp listed with handed | own
        · obtain ⟨next, u, called, converted, deeper⟩ :=
            call_of_inherited shape parents handed
          have formed : u.Formed := induction next called converted rfl
          exact formed.part (.property deeper)
        · obtain ⟨next, called, converted⟩ := call_of_own shape members own
          exact induction next called converted rfl

/-- Of all that stands in a type, at any depth: lists and maps alone have an
element, and objects alone have properties. The target is the name of the
reference that the elements end in. The text is that of the element, put into
the signs of a list or a map, and it is the text that is written out unless the
elements end in an object with properties. Freed of the signs of lists, the
text of lists around a reference is its name. -/
theorem texts_of_types_agree (ran : (convert doc active s).result = .ok t)
    {part : TypeExpr} (inside : Relation.ReflTransGen TypeExpr.Part t part) :
    (part.element.isSome ↔ part.kind = .array ∨ part.kind = .map) ∧
    (part.kind ≠ .object → part.properties = []) ∧
    (∀ name, part.importTarget = some name ↔
      ∃ last, Relation.ReflTransGen TypeExpr.Element part last ∧
        last.Names name) ∧
    (∀ e, part.element = some e →
      part.kind = .array ∧ part.text = "Array<" ++ e.text ++ ">" ∨
        part.kind = .map ∧
          part.text = "\x7b [key: string]: " ++ e.text ++ " \x7d") ∧
    (part.inline = part.text ↔ ¬ part.EndsInShape) ∧
    ∀ last name, Relation.ReflTransGen TypeExpr.ArrayElement part last →
      last.Names name → Naming.withoutContainers part.text = name := by
  have formed : part.Formed := (formed_of_convert ran).of_path inside
  refine ⟨formed.element_isSome_iff, formed.properties_eq_nil, ?_, ?_,
    formed.inline_eq_text_iff, ?_⟩
  · intro name
    constructor
    · exact formed.names_of_importTarget
    · intro ends
      obtain ⟨last, path, names⟩ := ends
      obtain ⟨reading, source, converted⟩ := converted_of_part inside ran
      exact importTarget_of_elements path names converted
  · intro e shown
    exact formed.text_of_element shown
  · intro last name path names
    exact formed.withoutContainers_of_arrays path names

def rows : Schema :=
  .inline
    { type := some .array
      items := some
        (.inline { type := some .array, items := some (.reference "Barrel") }) }

def labels : Schema :=
  .inline
    { additional := some (.values (.inline
        { properties := [("year", .inline { type := some .integer })] })) }

def vineyard : Document :=
  { version := Document.supportedVersion
    info := { title := "Vineyard", version := "1" }
    definitions :=
      ⟨[("Barrel", .inline { type := some .string }),
        ("Cellar", .inline { properties := [("rows", rows), ("labels", labels)] })],
        by decide⟩ }

def rowsType : TypeExpr := (TypeExpr.reference "Barrel").array.array

def labelsType : TypeExpr :=
  (TypeExpr.object [⟨"year", .primitive "number", true⟩]).map

def cellarType : TypeExpr :=
  TypeExpr.object [⟨"rows", rowsType, true⟩, ⟨"labels", labelsType, true⟩]

theorem convert_rows : (convert vineyard ["Cellar"] rows).result = .ok rowsType := by
  have found : vineyard.definition "Barrel" =
      .ok ("Barrel", .inline { type := some .string }) := rfl
  have named : Naming.typeName "Barrel" = "Barrel" := by decide
  rw [rows, convert_of_array rfl, convert_of_array rfl,
    convert_of_reference rfl found, named]
  rfl

theorem convert_labels :
    (convert vineyard ["Cellar"] labels).result = .ok labelsType := by
  rw [labels, convert_of_map rfl, convert_of_object rfl,
    inheritedProperties_nil, ownProperties_cons, ownProperties_nil,
    convert_of_primitive rfl]
  rfl

theorem definitionType_cellar :
    (vineyard.definitionType "Cellar"
      (.inline { properties := [("rows", rows), ("labels", labels)] })).result =
      .ok cellarType := by
  rw [Document.definitionType, convert_of_object rfl, inheritedProperties_nil,
    ownProperties_cons, ownProperties_cons, ownProperties_nil]
  simp only [Traced.result_bind, convert_rows, convert_labels]
  rfl

/-- The barrels are named in both texts, the years are written out in one. -/
theorem cellar_writes_years_out :
    Relation.ReflTransGen TypeExpr.Part cellarType rowsType ∧
    rowsType.text = "Array<Array<Barrel>>" ∧
    Naming.withoutContainers rowsType.text = "Barrel" ∧
    rowsType.importTarget = some "Barrel" ∧ rowsType.inline = rowsType.text ∧
    Relation.ReflTransGen TypeExpr.Part cellarType labelsType ∧
    labelsType.text = "\x7b [key: string]: object \x7d" ∧
    labelsType.importTarget ≠ some "Barrel" ∧
    labelsType.inline ≠ labelsType.text := by
  have rowsInside : Relation.ReflTransGen TypeExpr.Part cellarType rowsType :=
    .single (@TypeExpr.Part.property cellarType ⟨"rows", rowsType, true⟩ (.head _))
  have labelsInside :
      Relation.ReflTransGen TypeExpr.Part cellarType labelsType :=
    .single (@TypeExpr.Part.property cellarType ⟨"labels", labelsType, true⟩
      (.tail _ (.head _)))
  have rowInside : Relation.ReflTransGen TypeExpr.Part cellarType
      (TypeExpr.reference "Barrel").array :=
    rowsInside.tail (.element rfl)
  obtain ⟨_, _, rowsTarget, rowsText, rowsWritten, freed⟩ :=
    texts_of_types_agree definitionType_cellar rowsInside
  obtain ⟨_, _, _, rowText, _, _⟩ :=
    texts_of_types_agree definitionType_cellar rowInside
  obtain ⟨_, _, _, labelsText, labelsWritten, _⟩ :=
    texts_of_types_agree definitionType_cellar labelsInside
  have barrel : (TypeExpr.reference "Barrel").Names "Barrel" := ⟨rfl, rfl⟩
  have lists : Relation.ReflTransGen TypeExpr.ArrayElement rowsType
      (TypeExpr.reference "Barrel") :=
    .head ⟨rfl, rfl⟩ (.single ⟨rfl, rfl⟩)
  have rows : rowsType.text = "Array<Array<Barrel>>" := by
    obtain ⟨_, outer⟩ | ⟨other, _⟩ := rowsText _ rfl
    · obtain ⟨_, inner⟩ | ⟨other, _⟩ := rowText _ rfl
      · rw [outer, inner]
        rfl
      · cases other
    · cases other
  have labels : labelsType.text = "\x7b [key: string]: object \x7d" := by
    obtain ⟨other, _⟩ | ⟨_, text⟩ := labelsText _ rfl
    · cases other
    · rw [text]
      rfl
  have plain : ¬ rowsType.EndsInShape := by
    rw [TypeExpr.EndsInShape.of_element (t := rowsType) rfl,
      TypeExpr.EndsInShape.of_element
        (t := (TypeExpr.reference "Barrel").array) rfl,
      TypeExpr.endsInShape_of_plain rfl]
    simp [rowsType, TypeExpr.array, TypeExpr.reference]
  have shape : labelsType.EndsInShape :=
    ⟨_, .single rfl, rfl, List.cons_ne_nil _ _⟩
  have target : rowsType.importTarget = some "Barrel" :=
    (rowsTarget "Barrel").mpr ⟨_, .head rfl (.single rfl), barrel⟩
  exact ⟨rowsInside, rows, freed _ _ lists barrel, target,
    rowsWritten.mpr plain, labelsInside, labels, by decide,
    fun same => labelsWritten.mp same shape⟩

end Conversion

end ApiBindings
