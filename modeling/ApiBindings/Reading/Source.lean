import ApiBindings.Reading.Basic
import ApiBindings.Reading.Datum

/-!
What readers of typed values ask of a value, whatever text it comes from, and the readers for lists,
tables and records built on that.
-/

namespace ApiBindings.Reading

/-- The parts of a value in their order, and what is left to check after the last of them. -/
structure Parts (β : Type) where
  items : List β
  close : Read Unit

/-- A member of a record, named or given by its number in the order of declaration. -/
inductive FieldKey
  | name (s : String)
  | number (n : Nat)

class Source (ν : Type) where
  text : ν → Read String
  flag : ν → Read Bool
  /-- Nothing for a value that stands for none. -/
  present : ν → Read (Option ν)
  items : ν → Read (Parts ν)
  members : ν → Read (Parts (Read String × ν))
  /-- The values of a record in the order of declaration, or its members by their keys. -/
  fields : ν → Read (Parts ν ⊕ Parts (Read FieldKey × ν))
  /-- The name of a choice, and the check of what stands beside it. -/
  choice : ν → Read (String × Read Unit)
  datum : ν → Read Datum
  json : ν → Read Json
  skip : ν → Read Unit

open Source

variable {ν α ρ : Type} [Source ν]

def optional (read : ν → Read α) (v : ν) : Read (Option α) := do
  match ← present v with
  | none => return none
  | some w => return some (← read w)

def list (read : ν → Read α) (v : ν) : Read (List α) := do
  let parts ← items v
  let values ← parts.items.mapM read
  parts.close
  return values

def table (read : ν → Read α) (v : ν) : Read (OrderedMap String α) := do
  let parts ← members v
  let entries ← parts.items.foldlM (fun (m : OrderedMap String α) (key, w) => do
    let k ← key
    return m.insert k (← read w)) ∅
  parts.close
  return entries

def choose (find? : String → Option α) (v : ν) : Read α := do
  let (name, check) ← choice v
  match find? name with
  | none => mismatch
  | some a => check; return a

/-- A member of a record: reading it gives the change that it makes to the record. -/
structure Field (ν ρ : Type) where
  name : String
  required : Bool
  read : ν → Read (ρ → ρ)

namespace Field

def must (name : String) (read : ν → Read α) (put : ρ → α → ρ) : Field ν ρ :=
  ⟨name, true, fun v => do let a ← read v; return fun r => put r a⟩

def may (name : String) (read : ν → Read α) (put : ρ → α → ρ) : Field ν ρ :=
  ⟨name, false, fun v => do let a ← read v; return fun r => put r a⟩

end Field

def FieldKey.find? (fields : List (Field ν ρ)) : FieldKey → Option (Field ν ρ)
  | name s => fields.find? (·.name == s)
  | number n => fields[n]?

/-- Reads members in any order, none of them twice; unknown ones are passed over. -/
def namedFields (fields : List (Field ν ρ)) (seen : List String) (r : ρ) :
    List (Read FieldKey × ν) → Read (List String × ρ)
  | [] => return (seen, r)
  | (key, v) :: rest => do
    match (← key).find? fields with
    | none => skip v; namedFields fields seen r rest
    | some field =>
      if field.name ∈ seen then mismatch
      else namedFields fields (field.name :: seen) ((← field.read v) r) rest

/-- Reads values in the order of declaration; the last ones may be left out. -/
def numberedFields (r : ρ) : List (Field ν ρ) → List ν → Read (ρ × List (Field ν ρ) × List ν)
  | field :: fields, v :: values => do
    let put ← field.read v
    numberedFields (put r) fields values
  | fields, values => return (r, fields, values)

def record (blank : ρ) (fields : List (Field ν ρ)) (v : ν) : Read ρ := do
  match ← Source.fields v with
  | .inr parts =>
    let (seen, r) ← namedFields fields [] blank parts.items
    parts.close
    if fields.all fun f => !f.required || seen.contains f.name then return r else mismatch
  | .inl parts =>
    let (r, missing, extra) ← numberedFields blank fields parts.items
    if extra.isEmpty then
      parts.close
      if missing.any (·.required) then mismatch else return r
    else malformed

end ApiBindings.Reading
