import ApiBindings.OrderedMap
import ApiBindings.Yaml.Tokens

/-!
The tree of nodes of a YAML text. References are first read as names and then as the numbers of the
anchors that they mean at their place.
-/

namespace ApiBindings.Yaml

/-- `ρ` is what a reference to another node is. -/
inductive Node (ρ : Type)
  | alias (ref : ρ)
  | scalar (anchor : Option String) (tag : Option String) (style : Style) (text : String)
  | sequence (anchor : Option String) (tag : Option String) (items : List (Node ρ))
  | mapping (anchor : Option String) (tag : Option String) (members : List (Node ρ × Node ρ))

namespace Node

def empty {ρ : Type} : Node ρ := .scalar none none .plain ""

abbrev Handles := List (String × String)

def defaultHandles : Handles := [("!", "!"), ("!!", "tag:yaml.org,2002:")]

def tagText? (handles : Handles) (handle suffix : String) : Option String :=
  if handle = "" then some suffix else (Entries.find? handle handles).map (· ++ suffix)

/-- An anchor and a tag may stand before a node, in any order. -/
def properties? (handles : Handles) :
    List Token → Option (Option String × Option String × List Token)
  | .anchor a :: .tag h s :: rest => (tagText? handles h s).map (some a, some ·, rest)
  | .anchor a :: rest => some (some a, none, rest)
  | .tag h s :: .anchor a :: rest => (tagText? handles h s).map (some a, some ·, rest)
  | .tag h s :: rest => (tagText? handles h s).map (none, some ·, rest)
  | rest => some (none, none, rest)

def atAny (ends : List Token) (tokens : List Token) : Bool := tokens.head?.any (ends.contains ·)

/-- Passes over the comma before every part but the first. -/
def flowRest? (last : Token) (first : Bool) (tokens : List Token) : Option (List Token) :=
  if first ∨ atAny [last] tokens then some tokens
  else
    match tokens with
    | .flowEntry :: rest => some rest
    | _ => none

mutual
/-- A node that starts with the first token. Entries of a sequence may stand as far left as the
mapping around them. -/
def read? (handles : Handles) (block indentless : Bool) (tokens : List Token) :
    Nat → Option (Node String × List Token)
  | 0 => none
  | fuel + 1 =>
    match tokens with
    | .alias name :: rest => some (.alias name, rest)
    | _ => do
      let (anchor, tag, tokens) ← properties? handles tokens
      match tokens with
      | .scalar style text :: rest =>
        return (.scalar anchor (if tag = some "!" then none else tag) style text, rest)
      | .flowSequenceStart :: rest =>
        let (items, rest) ← flowItems? handles true rest fuel
        return (.sequence anchor tag items, rest)
      | .flowMappingStart :: rest =>
        let (members, rest) ← flowMembers? handles true rest fuel
        return (.mapping anchor tag members, rest)
      | rest =>
        if indentless ∧ atAny [.blockEntry] rest then
          let (items, rest) ← indentlessItems? handles rest fuel
          return (.sequence anchor tag items, rest)
        else if block ∧ atAny [.blockSequenceStart] rest then
          let (items, rest) ← blockItems? handles rest.tail fuel
          return (.sequence anchor tag items, rest)
        else if block ∧ atAny [.blockMappingStart] rest then
          let (members, rest) ← blockMembers? handles rest.tail fuel
          return (.mapping anchor tag members, rest)
        else if anchor.isSome ∨ tag.isSome then
          return (.scalar anchor tag .plain "", rest)
        else none

def readOrEmpty? (handles : Handles) (block indentless : Bool) (ends tokens : List Token) :
    Nat → Option (Node String × List Token)
  | 0 => none
  | fuel + 1 =>
    if atAny ends tokens then some (empty, tokens)
    else read? handles block indentless tokens fuel

def blockItems? (handles : Handles) (tokens : List Token) :
    Nat → Option (List (Node String) × List Token)
  | 0 => none
  | fuel + 1 =>
    match tokens with
    | .blockEntry :: rest => do
      let (item, rest) ←
        readOrEmpty? handles true false [.blockEntry, .blockEnd] rest fuel
      let (items, rest) ← blockItems? handles rest fuel
      return (item :: items, rest)
    | .blockEnd :: rest => some ([], rest)
    | _ => none

def indentlessItems? (handles : Handles) (tokens : List Token) :
    Nat → Option (List (Node String) × List Token)
  | 0 => none
  | fuel + 1 =>
    match tokens with
    | .blockEntry :: rest => do
      let (item, rest) ←
        readOrEmpty? handles true false [.blockEntry, .key, .value, .blockEnd] rest fuel
      let (items, rest) ← indentlessItems? handles rest fuel
      return (item :: items, rest)
    | rest => some ([], rest)

def blockMembers? (handles : Handles) (tokens : List Token) :
    Nat → Option (List (Node String × Node String) × List Token)
  | 0 => none
  | fuel + 1 =>
    match tokens with
    | .key :: rest => do
      let ends := [.key, .value, .blockEnd]
      let (key, rest) ← readOrEmpty? handles true true ends rest fuel
      let (value, rest) ←
        match rest with
        | .value :: rest => readOrEmpty? handles true true ends rest fuel
        | rest => some (empty, rest)
      let (members, rest) ← blockMembers? handles rest fuel
      return ((key, value) :: members, rest)
    | .blockEnd :: rest => some ([], rest)
    | _ => none

/-- A pair inside a list is a mapping of its own. One without a key takes the place of its first
token. -/
def flowItems? (handles : Handles) (first : Bool) (tokens : List Token) :
    Nat → Option (List (Node String) × List Token)
  | 0 => none
  | fuel + 1 => do
    let tokens ← flowRest? .flowSequenceEnd first tokens
    match tokens with
    | .flowSequenceEnd :: rest => return ([], rest)
    | .key :: rest =>
      let (key, rest) ←
        if atAny [.value, .flowEntry, .flowSequenceEnd] rest then some (empty, rest.tail)
        else read? handles false false rest fuel
      let (value, rest) ←
        match rest with
        | .value :: rest =>
          readOrEmpty? handles false false [.flowEntry, .flowSequenceEnd] rest fuel
        | rest => some (empty, rest)
      let (items, rest) ← flowItems? handles false rest fuel
      return (.mapping none none [(key, value)] :: items, rest)
    | rest =>
      let (item, rest) ← read? handles false false rest fuel
      let (items, rest) ← flowItems? handles false rest fuel
      return (item :: items, rest)

def flowMembers? (handles : Handles) (first : Bool) (tokens : List Token) :
    Nat → Option (List (Node String × Node String) × List Token)
  | 0 => none
  | fuel + 1 => do
    let tokens ← flowRest? .flowMappingEnd first tokens
    match tokens with
    | .flowMappingEnd :: rest => return ([], rest)
    | .key :: rest =>
      let ends := [.flowEntry, .flowMappingEnd]
      let (key, rest) ← readOrEmpty? handles false false (.value :: ends) rest fuel
      let (value, rest) ←
        match rest with
        | .value :: rest => readOrEmpty? handles false false ends rest fuel
        | rest => some (empty, rest)
      let (members, rest) ← flowMembers? handles false rest fuel
      return ((key, value) :: members, rest)
    | rest =>
      let (key, rest) ← read? handles false false rest fuel
      let (members, rest) ← flowMembers? handles false rest fuel
      return ((key, empty) :: members, rest)
end

def directives? (versioned : Bool) (handles : Handles) : List Token → Option (Handles × List Token)
  | .version major minor :: rest =>
    if versioned || major ≠ 1 || (minor ≠ 1 && minor ≠ 2) then none
    else directives? true handles rest
  | .tagDirective handle start :: rest =>
    if (Entries.find? handle handles).isSome then none
    else directives? versioned (handles ++ [(handle, start)]) rest
  | rest => some (handles, rest)

def documentStart? (tokens : List Token) : Option (Handles × Bool × List Token) := do
  match tokens with
  | .version .. :: _ | .tagDirective .. :: _ | .documentStart :: _ =>
    let (handles, rest) ← directives? false [] tokens
    match rest with
    | .documentStart :: rest => return (handles ++ defaultHandles, true, rest)
    | _ => none
  | _ => return (defaultHandles, false, tokens)

def endsContent : List Token → Bool
  | [] => true
  | .version .. :: _ | .tagDirective .. :: _ | .documentStart :: _ | .documentEnd :: _ => true
  | _ => false

/-- The node of a text with one document; nothing for a text without any. -/
def ofTokens? (tokens : List Token) : Option (Option (Node String)) := do
  if tokens.isEmpty then return none
  else
    let (handles, explicit, rest) ← documentStart? tokens
    let (root, rest) ←
      if explicit && endsContent rest then some (empty, rest)
      else read? handles true false rest (4 * tokens.length + 8)
    if (rest.dropWhile (· == .documentEnd)).isEmpty then return some root else none

end Node

/-- A node with its references resolved, the anchored nodes by their numbers, and the number of
starts and ends of nodes. -/
structure Resolved (α : Type) where
  node : α
  anchored : List (Nat × Node Nat)
  events : Nat

/-- The numbers of the anchors so far. An anchor takes as its number how many names there are. -/
abbrev Anchors := List (String × Nat)

namespace Node

def addAnchor (anchors : Anchors) : Option String → Anchors
  | none => anchors
  | some name => Entries.put name anchors.length anchors

def entry (anchors : Anchors) (anchor : Option String) (node : Node Nat) : List (Nat × Node Nat) :=
  match anchor with
  | none => []
  | some _ => [(anchors.length, node)]

mutual
def resolve? (anchors : Anchors) : Node String → Option (Anchors × Resolved (Node Nat))
  | .alias name => (Entries.find? name anchors).map fun n => (anchors, ⟨.alias n, [], 1⟩)
  | .scalar anchor tag style text =>
    let node := .scalar anchor tag style text
    some (addAnchor anchors anchor, ⟨node, entry anchors anchor node, 1⟩)
  | .sequence anchor tag items => do
    let (inner, items) ← resolveItems? (addAnchor anchors anchor) items
    let node := .sequence anchor tag items.node
    return (inner, ⟨node, entry anchors anchor node ++ items.anchored, items.events + 2⟩)
  | .mapping anchor tag members => do
    let (inner, members) ← resolveMembers? (addAnchor anchors anchor) members
    let node := .mapping anchor tag members.node
    return (inner, ⟨node, entry anchors anchor node ++ members.anchored, members.events + 2⟩)

def resolveItems? (anchors : Anchors) :
    List (Node String) → Option (Anchors × Resolved (List (Node Nat)))
  | [] => some (anchors, ⟨[], [], 0⟩)
  | item :: items => do
    let (anchors, a) ← resolve? anchors item
    let (anchors, b) ← resolveItems? anchors items
    return (anchors, ⟨a.node :: b.node, a.anchored ++ b.anchored, a.events + b.events⟩)

def resolveMembers? (anchors : Anchors) :
    List (Node String × Node String) → Option (Anchors × Resolved (List (Node Nat × Node Nat)))
  | [] => some (anchors, ⟨[], [], 0⟩)
  | (key, value) :: members => do
    let (anchors, a) ← resolve? anchors key
    let (anchors, b) ← resolve? anchors value
    let (anchors, c) ← resolveMembers? anchors members
    return (anchors, ⟨(a.node, b.node) :: c.node, a.anchored ++ (b.anchored ++ c.anchored),
      a.events + b.events + c.events⟩)
end

end Node

/-- The one document of a text; `root` is nothing for a text without any. -/
structure Stream where
  root : Option (Node Nat)
  anchored : List (Nat × Node Nat)
  events : Nat

namespace Stream

/-- Of several nodes with the same number the last one counts. -/
def find? (stream : Stream) (n : Nat) : Option (Node Nat) :=
  (stream.anchored.reverse.find? (·.1 = n)).map (·.2)

def ofText? (cs : List Char) : Option Stream := do
  match ← Node.ofTokens? (← tokens? cs) with
  | none => return ⟨none, [], 1⟩
  | some node =>
    let (_, r) ← node.resolve? []
    return ⟨some r.node, r.anchored, r.events⟩

end Stream

end ApiBindings.Yaml
