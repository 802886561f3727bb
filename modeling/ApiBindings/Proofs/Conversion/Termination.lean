import ApiBindings.Proofs.Conversion.Recursion
import ApiBindings.Proofs.Tables

/-!
Why a conversion ends. A definition is entered at most once on the way to a
call, so the stack is short, and between two entries the schema gets smaller.
This bounds how deep the calls of a conversion are nested, whatever cycles the
definitions form.
-/

namespace ApiBindings.Conversion

/-- A stack that a run can have if it starts with `seed` on it or with none. -/
structure SoundStack (doc : Document) (seed : Option String)
    (active : List String) : Prop where
  distinct : active.Nodup
  defined : ∀ name ∈ active, name ∈ doc.definitions.keys ∨ seed = some name

instance (doc : Document) (seed : Option String) :
    DecidablePred (SoundStack doc seed) := fun active =>
  decidable_of_iff (active.Nodup ∧
      ∀ name ∈ active, name ∈ doc.definitions.keys ∨ seed = some name)
    ⟨fun ⟨distinct, defined⟩ => ⟨distinct, defined⟩,
      fun sound => ⟨sound.distinct, sound.defined⟩⟩

variable {doc : Document} {seed : Option String} {active : List String}
  {s : Schema} {call next : List String × Schema}

theorem SoundStack.length_le (sound : SoundStack doc seed active) :
    active.length ≤ doc.definitions.size + 1 := by
  have covered : active ⊆ seed.toList ++ doc.definitions.keys := by
    intro name member
    rcases sound.defined name member with known | rfl
    · exact List.mem_append_right _ known
    · simp
  have short := sound.distinct.length_le_of_subset covered
  have one : seed.toList.length ≤ 1 := by cases seed <;> simp
  simp only [List.length_append, OrderedMap.keys, List.length_map] at short
  rw [OrderedMap.size]
  omega

theorem soundStack_start : SoundStack doc seed seed.toList := by
  constructor <;> cases seed <;> simp

theorem SoundStack.of_calls (sound : SoundStack doc seed call.1)
    (called : Calls doc call next) : SoundStack doc seed next.1 := by
  cases called with
  | part held => exact sound
  | parent extended fresh =>
      refine ⟨List.nodup_cons.mpr ⟨fresh, sound.distinct⟩, ?_⟩
      intro other member
      rcases List.mem_cons.mp member with rfl | older
      · exact .inl extended.mem_keys
      · exact sound.defined other older

theorem soundStack_of_run
    (run : Relation.ReflTransGen (Calls doc) (seed.toList, s) call) :
    SoundStack doc seed call.1 := by
  induction run with
  | refl => exact soundStack_start
  | tail _ called induction => exact induction.of_calls called

/-- A bound on the calls that are nested below a call: each entry into a
definition makes room for the size of its body. -/
noncomputable def roomBelow (doc : Document)
    (call : List String × Schema) : Nat :=
  pending doc call.1 * (sizeOf doc.definitions.entries + 1) + sizeOf call.2

theorem roomBelow_le (doc : Document) (active : List String) (s : Schema) :
    roomBelow doc (active, s) ≤
      doc.definitions.size * (sizeOf doc.definitions.entries + 1) +
        sizeOf s := by
  have fewer : pending doc active ≤ doc.definitions.size := by
    rw [OrderedMap.size, ← List.length_map (f := Prod.fst)]
    exact List.length_filter_le _ _
  exact Nat.add_le_add_right (Nat.mul_le_mul_right _ fewer) _

theorem Extends.sizeOf_lt {name : String} {parent : Schema}
    (extended : Extends doc s name parent) :
    sizeOf parent < sizeOf doc.definitions.entries := by
  have member := OrderedMap.mem_entries_of_get? extended.entry
  have smaller := List.sizeOf_lt_of_mem member
  simp only [Prod.mk.sizeOf_spec] at smaller
  omega

theorem Calls.roomBelow_lt (called : Calls doc call next) :
    roomBelow doc next < roomBelow doc call := by
  cases called with
  | part held => exact Nat.add_lt_add_left held.sizeOf_lt _
  | @parent active s t name extended fresh =>
      have fewer := pending_cons_lt extended.mem_keys fresh
      have small := extended.sizeOf_lt
      calc
        roomBelow doc (name :: active, t)
          < pending doc (name :: active) *
                (sizeOf doc.definitions.entries + 1) +
              (sizeOf doc.definitions.entries + 1) :=
            Nat.add_lt_add_left (Nat.lt_succ_of_lt small) _
        _ = (pending doc (name :: active) + 1) *
              (sizeOf doc.definitions.entries + 1) := (Nat.succ_mul _ _).symm
        _ ≤ pending doc active * (sizeOf doc.definitions.entries + 1) :=
            Nat.mul_le_mul_right _ fewer
        _ ≤ roomBelow doc (active, s) := Nat.le_add_right _ _

/-- The conversion with a guard at every call: where more calls are nested than
`depth` says, or the stack is not sound, it answers `other`. -/
def convertWithin (doc : Document) (seed : Option String) (other : Answers) :
    Nat → Answers
  | 0 => other
  | depth + 1 => fun active s =>
      if SoundStack doc seed active then
        level doc (convertWithin doc seed other depth) active s
      else other active s

theorem convertWithin_eq {other : Answers} {depth : Nat}
    (sound : SoundStack doc seed active)
    (deep : roomBelow doc (active, s) < depth) :
    convertWithin doc seed other depth active s = convert doc active s := by
  induction depth generalizing active s with
  | zero => omega
  | succ depth induction =>
      rw [convertWithin, convert_eq_level]
      simp only [if_pos sound]
      apply level_congr
      intro next called
      have shallower : roomBelow doc next < depth :=
        Nat.lt_of_lt_of_le called.roomBelow_lt (Nat.le_of_lt_succ deep)
      exact induction (sound.of_calls called) shallower

/-- A conversion never runs out. On every stack of a run, whether it starts with
a schema or with a definition, the names are distinct and those of definitions
but for the start, and there is at most one more than there are definitions.
Each call has fewer definitions to enter than the call that makes it, or as many
and a smaller schema. So a limit on the nesting of calls that depends on the
document and the schema alone is never met: nothing that would be answered there
changes the outcome, nor a message. -/
theorem conversion_never_runs_out (doc : Document) (s : Schema) :
    (∀ (seed : Option String) call,
      Relation.ReflTransGen (Calls doc) (seed.toList, s) call →
        call.1.Nodup ∧
        (∀ name ∈ call.1, name ∈ doc.definitions.keys ∨ seed = some name) ∧
        call.1.length ≤ doc.definitions.size + 1) ∧
    (∀ call next, Calls doc call next →
      Prod.Lex (· < ·) (· < ·) (pending doc next.1, sizeOf next.2)
        (pending doc call.1, sizeOf call.2)) ∧
    WellFounded (fun next call => Calls doc call next) ∧
    ∀ depth, doc.definitions.size * (sizeOf doc.definitions.entries + 1) +
        sizeOf s < depth → ∀ other,
      convertWithin doc none other depth [] s = s.toType doc ∧
      ∀ name, convertWithin doc (some name) other depth [name] s =
        doc.definitionType name s := by
  refine ⟨?_, fun _ _ called => called.lex_lt, wellFounded_calls doc, ?_⟩
  · intro seed call run
    have sound := soundStack_of_run run
    exact ⟨sound.distinct, sound.defined, sound.length_le⟩
  · intro depth deep other
    have entered (seed : Option String) :
        convertWithin doc seed other depth seed.toList s =
          convert doc seed.toList s :=
      convertWithin_eq soundStack_start
        (Nat.lt_of_le_of_lt (roomBelow_le doc _ s) deep)
    exact ⟨entered none, fun name => entered (some name)⟩

def child : Schema := .inline { allOf := [.reference "Folder"] }

def folder : Schema := .inline { allOf := [.reference "Entry"] }

def entry : Schema :=
  .inline
    { allOf := [.reference "#/definitions/Folder"]
      properties :=
        [("children", .inline { type := some .array, items := some child })] }

/-- `Folder` and `Entry` extend each other. -/
def circle : Document :=
  { version := Document.supportedVersion
    info := { title := "Files", version := "1" }
    definitions := ⟨[("Folder", folder), ("Entry", entry)], by decide⟩ }

theorem calls_child :
    Relation.ReflTransGen (Calls circle) (["Folder"], folder)
      (["Entry", "Folder"], child) := by
  have extended : Extends circle folder "Entry" entry := ⟨rfl, .head _, rfl⟩
  refine .head (.parent extended (by decide)) ?_
  refine .head (.part (@Schema.Holds.property _ _ _ "children" rfl (.head _))) ?_
  exact .single (.part (.items rfl))

/-- Both definitions are being read when the child asks for `Folder` again. -/
theorem circle_never_runs_out :
    (["Entry", "Folder"].Nodup ∧
      ["Entry", "Folder"].length ≤ circle.definitions.size + 1) ∧
    ∃ depth, ∀ other,
      convertWithin circle (some "Folder") other depth ["Folder"] folder =
        circle.definitionType "Folder" folder := by
  obtain ⟨sound, _, _, ends⟩ := conversion_never_runs_out circle folder
  have ⟨distinct, _, short⟩ := sound (some "Folder") _ calls_child
  exact ⟨⟨distinct, short⟩, _,
    fun other => (ends _ (Nat.lt_succ_self _) other).2 "Folder"⟩

end ApiBindings.Conversion
