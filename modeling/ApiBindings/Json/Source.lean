import ApiBindings.Json.Numeral
import ApiBindings.Json.Tree
import ApiBindings.Reading.Source

/-!
Typed reading of JSON texts. The kind of a failure tells a broken text from a value of another
shape; a value that is passed over only has to be unbroken.
-/

namespace ApiBindings.Json

open Reading

/-- A value of a text, with the levels of nesting that are left for it. -/
structure Node where
  tree : Tree
  depth : Nat

namespace Node

def depthLimit : Nat := 127

def refuse {α : Type} : Tree → Read α
  | .broken => malformed
  | .number n => if n.value?.isSome then mismatch else malformed
  | .text none => malformed
  | _ => mismatch

def enter {α : Type} (v : Node) (inside : Nat → Read α) : Read α :=
  match v.depth with
  | 0 => malformed
  | depth + 1 => inside depth

def close (closed : Bool) : Read Unit := if closed then pure () else malformed

def readKey : Option String → Read String
  | some k => pure k
  | none => malformed

def readText (v : Node) : Read String :=
  match v.tree with
  | .text (some s) => pure s
  | t => refuse t

def readItems (v : Node) : Read (Parts Node) :=
  match v.tree with
  | .array items closed => v.enter fun depth => pure ⟨items.map (⟨·, depth⟩), close closed⟩
  | t => refuse t

def readMembers (v : Node) : Read (Parts (Read String × Node)) :=
  match v.tree with
  | .object members closed => v.enter fun depth =>
    pure ⟨members.map fun (key, t) => (readKey key, ⟨t, depth⟩), close closed⟩
  | t => refuse t

def readFields (v : Node) : Read (Parts Node ⊕ Parts (Read FieldKey × Node)) :=
  match v.tree with
  | .array _ _ => .inl <$> readItems v
  | _ => do
    let parts ← readMembers v
    return .inr ⟨parts.items.map fun (key, w) => (.name <$> key, w), parts.close⟩

/-- A choice is written as its name, or as an object whose one member is null. -/
def readChoice (v : Node) : Read (String × Read Unit) :=
  match v.tree with
  | .text (some s) => pure (s, pure ())
  | .object members closed => v.enter fun _ =>
    match members with
    | [] => malformed
    | (key, t) :: rest => do
      let name ← readKey key
      let check : Read Unit :=
        match t with
        | .null => close (closed && rest.isEmpty)
        | t => refuse t
      return (name, check)
  | _ => malformed

mutual
def readDatum (depth : Nat) : Tree → Read Datum
  | .broken => malformed
  | .null => pure .null
  | .bool b => pure (.bool b)
  | .number n =>
    match n.value? with
    | some j => pure j.toDatum
    | none => malformed
  | .text (some s) => pure (.text s)
  | .text none => malformed
  | .array items closed =>
    match depth with
    | 0 => malformed
    | depth + 1 => do
      let values ← readDatumItems depth items
      close closed
      return .list values
  | .object members closed =>
    match depth with
    | 0 => malformed
    | depth + 1 => do
      let values ← readDatumMembers depth members
      close closed
      return .table values

def readDatumItems (depth : Nat) : List Tree → Read (List Datum)
  | [] => pure []
  | t :: ts => do
    let d ← readDatum depth t
    return d :: (← readDatumItems depth ts)

def readDatumMembers (depth : Nat) :
    List (Option String × Tree) → Read (List (Datum × Datum))
  | [] => pure []
  | (key, t) :: ts => do
    let k ← readKey key
    let d ← readDatum depth t
    return (.text k, d) :: (← readDatumMembers depth ts)
end

def readJson (v : Node) : Read Json := do
  match (← readDatum v.depth v.tree).toJson? with
  | some j => return j
  | none => mismatch

instance : Source Node where
  text := readText
  flag v :=
    match v.tree with
    | .bool b => pure b
    | t => refuse t
  present v :=
    match v.tree with
    | .null => pure none
    | _ => pure (some v)
  items := readItems
  members := readMembers
  fields := readFields
  choice := readChoice
  datum v := readDatum v.depth v.tree
  json := readJson
  skip v := if v.tree.intact then pure () else malformed

end Node

def decode {α : Type} (read : Node → Read α) (text : String) : Read α := do
  let (tree, alone) := Tree.ofText text.toList
  let a ← read ⟨tree, Node.depthLimit⟩
  if alone then return a else malformed

def ofText? (text : String) : Option Json :=
  (decode Source.json text).run.result.toOption

end ApiBindings.Json
