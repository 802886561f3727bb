import ApiBindings.Reading.Source

/-!
Typed reading of values that have already been read in full. Every failure is a mismatch.
-/

namespace ApiBindings.Reading

def fieldKey : Datum → Read FieldKey
  | .text s => pure (.name s)
  | .int n => if n < 0 then mismatch else pure (.number n.toNat)
  | _ => mismatch

def textKey : Datum → Read String
  | .text s => pure s
  | _ => mismatch

instance : Source Datum where
  text := textKey
  flag
    | .bool b => pure b
    | _ => mismatch
  present
    | .null => pure none
    | d => pure (some d)
  items
    | .list items => pure ⟨items, pure ()⟩
    | _ => mismatch
  members
    | .table members => pure ⟨members.map fun (key, d) => (textKey key, d), pure ()⟩
    | _ => mismatch
  fields
    | .list items => pure (.inl ⟨items, pure ()⟩)
    | .table members => pure (.inr ⟨members.map fun (key, d) => (fieldKey key, d), pure ()⟩)
    | _ => mismatch
  choice
    | .text s => pure (s, pure ())
    | .table [(.text s, .null)] => pure (s, pure ())
    | _ => mismatch
  datum d := pure d
  json d :=
    match d.toJson? with
    | some j => pure j
    | none => mismatch
  skip _ := pure ()

/-- Reads a value in full and then as the first of two shapes that it has. -/
def oneOf {ν α : Type} [Source ν] (first second : Datum → Read α) (v : ν) : Read α := do
  let d ← Source.datum v
  try first d
  catch _ =>
    try second d
    catch _ => mismatch

end ApiBindings.Reading
