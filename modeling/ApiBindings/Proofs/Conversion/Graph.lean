import ApiBindings.Proofs.Conversion.Steps
import Mathlib.Logic.Relation

/-!
The graph that a conversion walks. `Reads` is the graph itself; `Calls` is the
walk, which carries the definitions being read and does not enter one of them
a second time.
-/

namespace ApiBindings

inductive Schema.Holds : Schema → Schema → Prop
  | items {s items : Schema} (shape : s.shape = .ok (.array items)) :
      Holds s items
  | values {s values : Schema} (shape : s.shape = .ok (.map values)) :
      Holds s values
  | member {s : Schema} {body member : SchemaBody Schema}
      (shape : s.shape = .ok (.object body))
      (listed : .inline member ∈ body.allOf) : Holds s (.inline member)
  | property {s p : Schema} {body : SchemaBody Schema} {name : String}
      (shape : s.shape = .ok (.object body))
      (listed : (name, p) ∈ body.properties) : Holds s p

theorem Schema.holds_iff {s t : Schema} :
    s.Holds t ↔
      match s.shape with
      | .ok (.array items) => t = items
      | .ok (.map values) => t = values
      | .ok (.object body) =>
          (∃ member, .inline member ∈ body.allOf ∧ t = .inline member) ∨
            ∃ name, (name, t) ∈ body.properties
      | _ => False := by
  constructor
  · intro held
    cases held with
    | items shape => simp [shape]
    | values shape => simp [shape]
    | member shape listed => simp [shape, listed]
    | property shape listed =>
        rw [shape]
        exact .inr ⟨_, listed⟩
  · intro described
    split at described
    next shape => exact described ▸ .items shape
    next shape => exact described ▸ .values shape
    next shape =>
      rcases described with ⟨member, listed, rfl⟩ | ⟨name, listed⟩
      · exact .member shape listed
      · exact .property shape listed
    next => exact described.elim

theorem Schema.Holds.sizeOf_lt {s t : Schema} (held : s.Holds t) :
    sizeOf t < sizeOf s := by
  cases held with
  | items shape => exact Conversion.sizeOf_of_shape_array shape
  | values shape => exact Conversion.sizeOf_of_shape_map shape
  | member shape listed =>
      have inner := List.sizeOf_lt_of_mem listed
      have outer := (Conversion.sizeOf_of_shape_object shape).1
      omega
  | property shape listed =>
      have inner := List.sizeOf_lt_of_mem listed
      have outer := (Conversion.sizeOf_of_shape_object shape).2
      simp only [Prod.mk.sizeOf_spec] at inner
      omega

namespace Conversion

/-- An object that takes over the properties of the definition `name`. -/
inductive Extends (doc : Document) (s : Schema) (name : String)
    (parent : Schema) : Prop
  | intro {body : SchemaBody Schema} {path : String}
      (shape : s.shape = .ok (.object body))
      (listed : .reference path ∈ body.allOf)
      (found : doc.definition path = .ok (name, parent))

inductive Reads (doc : Document) : Schema → Schema → Prop
  | part {s t : Schema} (held : s.Holds t) : Reads doc s t
  | parent {s t : Schema} {name : String}
      (extended : Extends doc s name t) : Reads doc s t

/-- The reads that do not enter one of the blocked definitions. -/
inductive ReadsOutside (doc : Document) (blocked : List String) :
    Schema → Schema → Prop
  | part {s t : Schema} (held : s.Holds t) : ReadsOutside doc blocked s t
  | parent {s t : Schema} {name : String} (extended : Extends doc s name t)
      (free : name ∉ blocked) : ReadsOutside doc blocked s t

/-- The calls that the conversion of a schema makes, each with the definitions
that are being read then. -/
inductive Calls (doc : Document) :
    List String × Schema → List String × Schema → Prop
  | part {active : List String} {s t : Schema} (held : s.Holds t) :
      Calls doc (active, s) (active, t)
  | parent {active : List String} {s t : Schema} {name : String}
      (extended : Extends doc s name t) (fresh : name ∉ active) :
      Calls doc (active, s) (name :: active, t)

variable {doc : Document} {active blocked : List String}
  {s t parent : Schema} {name : String}

theorem extends_iff :
    Extends doc s name parent ↔
      match s.shape with
      | .ok (.object body) => ∃ path, .reference path ∈ body.allOf ∧
          doc.definition path = .ok (name, parent)
      | _ => False := by
  constructor
  · rintro ⟨shape, listed, found⟩
    rw [shape]
    exact ⟨_, listed, found⟩
  · intro described
    split at described
    next shape =>
      obtain ⟨path, listed, found⟩ := described
      exact ⟨shape, listed, found⟩
    next => exact described.elim

theorem Extends.entry (extended : Extends doc s name parent) :
    doc.definitions.get? name = some parent := by
  obtain ⟨_, _, found⟩ := extended
  exact (Document.definition_eq_ok.mp found).2

theorem Extends.mem_keys (extended : Extends doc s name parent) :
    name ∈ doc.definitions.keys := by
  obtain ⟨_, _, found⟩ := extended
  exact name_mem_keys found

/-- Entering a definition leaves fewer to enter; else the schema gets
smaller. -/
theorem Calls.lex_lt {call next : List String × Schema}
    (called : Calls doc call next) :
    Prod.Lex (· < ·) (· < ·) (pending doc next.1, sizeOf next.2)
      (pending doc call.1, sizeOf call.2) := by
  cases called with
  | part held => exact Prod.Lex.right _ held.sizeOf_lt
  | parent extended fresh =>
      exact Prod.Lex.left _ _ (pending_cons_lt extended.mem_keys fresh)

theorem wellFounded_calls (doc : Document) :
    WellFounded (fun next call => Calls doc call next) := by
  let measure (call : List String × Schema) : Nat × Nat :=
    (pending doc call.1, sizeOf call.2)
  have decreasing : Subrelation (fun next call => Calls doc call next)
      (InvImage (Prod.Lex (· < ·) (· < ·)) measure) :=
    fun called => called.lex_lt
  exact decreasing.wf
    (InvImage.wf measure (Prod.lex Nat.lt_wfRel Nat.lt_wfRel).wf)

end Conversion

end ApiBindings
