import ApiBindings.Reading.Source
import ApiBindings.Yaml.Node
import ApiBindings.Yaml.Value

/-!
Typed reading of YAML texts. A scalar can be read as text whatever it looks like; a place left empty
can be read as an empty list or an empty mapping.
-/

namespace ApiBindings.Yaml

open Reading

structure Cursor where
  stream : Stream
  node : Option (Node Nat)
  depth : Nat

namespace Cursor

def depthLimit : Nat := 128

/-- Goes to the node that a reference means. No text may make more steps than a hundred for each of
its parts. -/
def follow (stream : Stream) : Node Nat → Read (Node Nat)
  | .alias n => do
    modify fun p => { p with followed := p.followed + 1 }
    if stream.events * 100 < (← get).followed then mismatch
    else
      match stream.find? n with
      | some node => return node
      | none => mismatch
  | node => return node

def resolved (v : Cursor) : Read (Option (Node Nat)) :=
  match v.node with
  | none => pure none
  | some node => some <$> follow v.stream node

def isEmptyPlain (style : Style) (text : String) : Bool := style = .plain && text = ""

def readText (v : Cursor) : Read String := do
  match ← v.resolved with
  | some (.scalar _ _ _ s) => return s
  | _ => mismatch

def readFlag (v : Cursor) : Read Bool := do
  match ← v.resolved with
  | some (.scalar _ tag style s) =>
    if style = .plain ∨ (style = .literal ∧ tag = some (coreTag "bool")) then
      match boolWord? s with
      | some b => return b
      | none => mismatch
    else mismatch
  | _ => mismatch

def readPresent (v : Cursor) : Read (Option Cursor) := do
  match ← v.resolved with
  | none => return none
  | some node =>
    let w : Cursor := { v with node := some node }
    match node with
    | .scalar _ tag .plain s =>
      match tag with
      | none => return if s = "" ∨ isNullWord s then none else some w
      | some t =>
        if t = coreTag "null" then if isNullWord s then return none else mismatch
        else return some w
    | _ => return some w

def enter {α : Type} (v : Cursor) (inside : (Node Nat → Cursor) → Read α) : Read α :=
  match v.depth with
  | 0 => mismatch
  | depth + 1 => inside fun node => ⟨v.stream, some node, depth⟩

def readItems (v : Cursor) : Read (Parts Cursor) := do
  match ← v.resolved with
  | none => return ⟨[], pure ()⟩
  | some (.sequence _ _ items) => v.enter fun down => return ⟨items.map down, pure ()⟩
  | some (.scalar _ _ style s) =>
    if isEmptyPlain style s then return ⟨[], pure ()⟩ else mismatch
  | some _ => mismatch

def readMembers (v : Cursor) : Read (Parts (Read String × Cursor)) := do
  match ← v.resolved with
  | none => return ⟨[], pure ()⟩
  | some (.mapping _ _ members) => v.enter fun down =>
    return ⟨members.map fun (key, node) => ((down key).readText, down node), pure ()⟩
  | some (.scalar _ _ style s) =>
    if isEmptyPlain style s then return ⟨[], pure ()⟩ else mismatch
  | some _ => mismatch

def readFields (v : Cursor) : Read (Parts Cursor ⊕ Parts (Read FieldKey × Cursor)) := do
  let parts ← readMembers v
  return .inr ⟨parts.items.map fun (key, w) => (.name <$> key, w), parts.close⟩

/-- A choice is written as its name, or as a tag at a place left empty. -/
def readChoice (v : Cursor) : Read (String × Read Unit) := do
  match ← v.resolved with
  | some (.scalar _ tag style s) =>
    if isLocalTag tag then
      let named := String.ofList ((tag.getD "").toList.drop 1)
      return (named, if style = .plain ∧ (s = "" ∨ isNullWord s) then pure () else mismatch)
    else return (s, pure ())
  | _ => mismatch

def scalar (tag : Option String) (style : Style) (s : String) : Read Datum :=
  match scalarDatum? tag style s with
  | some d => pure d
  | none => mismatch

def readDatum (stream : Stream) : Nat → Node Nat → Read Datum
  | 0, node => do
    match ← follow stream node with
    | .scalar _ tag style s => scalar tag style s
    | _ => mismatch
  | depth + 1, node => do
    match ← follow stream node with
    | .scalar _ tag style s => scalar tag style s
    | .sequence _ tag items =>
      if isLocalTag tag then mismatch else return .list (← items.mapM (readDatum stream depth))
    | .mapping _ tag members =>
      if isLocalTag tag then mismatch
      else return .table (← members.mapM fun (key, value) => do
        let k ← readDatum stream depth key
        return (k, ← readDatum stream depth value))
    | .alias _ => mismatch

def scalarJson (tag : Option String) (style : Style) (s : String) : Read Json := do
  match (← scalar tag style s).toJson? with
  | some j => return j
  | none => mismatch

/-- Keys are read as text here, whatever they look like. -/
def readJson (stream : Stream) : Nat → Node Nat → Read Json
  | 0, node => do
    match ← follow stream node with
    | .scalar _ tag style s => scalarJson tag style s
    | _ => mismatch
  | depth + 1, node => do
    match ← follow stream node with
    | .scalar _ tag style s => scalarJson tag style s
    | .sequence _ tag items =>
      if isLocalTag tag then mismatch else return .array (← items.mapM (readJson stream depth))
    | .mapping _ tag members =>
      if isLocalTag tag then mismatch
      else
        let entries ← members.foldlM (fun (es : List (String × Json)) (key, value) => do
          let k ← readText ⟨stream, some key, depth⟩
          return Entries.put k (← readJson stream depth value) es) []
        return .object entries
    | .alias _ => mismatch

instance : Source Cursor where
  text := readText
  flag := readFlag
  present := readPresent
  items := readItems
  members := readMembers
  fields := readFields
  choice := readChoice
  datum v :=
    match v.node with
    | none => pure .null
    | some node => readDatum v.stream v.depth node
  json v :=
    match v.node with
    | none => pure .null
    | some node => readJson v.stream v.depth node
  skip _ := pure ()

end Cursor

def decode {α : Type} (read : Cursor → Read α) (text : String) : Read α :=
  match Stream.ofText? text.toList with
  | none => malformed
  | some stream => read ⟨stream, stream.root, Cursor.depthLimit⟩

end ApiBindings.Yaml
