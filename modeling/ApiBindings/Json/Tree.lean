import ApiBindings.Json.Token

/-!
The values of a JSON text as far as it can be read. Where a text is broken its tree ends: the value
at that place is `broken`, and the lists and objects around it are not closed.
-/

namespace ApiBindings.Json

inductive Tree
  | broken
  | null
  | bool (b : Bool)
  | number (n : Numeral)
  | text (s : Option String)
  | array (items : List Tree) (closed : Bool)
  | object (members : List (Option String × Tree)) (closed : Bool)

namespace Tree

mutual
def intact : Tree → Bool
  | broken => false
  | array items closed => closed && intactItems items
  | object members closed => closed && intactMembers members
  | null => true
  | bool _ => true
  | number _ => true
  | text _ => true

def intactItems : List Tree → Bool
  | [] => true
  | item :: items => intact item && intactItems items

def intactMembers : List (Option String × Tree) → Bool
  | [] => true
  | (_, value) :: members => intact value && intactMembers members
end

/-- A list or an object around the place that is being read; its parts so far, the last one
first. -/
inductive Frame
  | items (before : List Tree)
  | members (before : List (Option String × Tree)) (key : Option String)

inductive Place
  | value
  | itemOrEnd
  | afterItem (items : List Tree)
  | keyOrEnd
  | key (members : List (Option String × Tree))
  | colon (members : List (Option String × Tree)) (key : Option String)
  | afterMember (members : List (Option String × Tree))
  | done (t : Tree)

/-- The whole value when nothing more can be read after `t`. -/
def abandon (t : Tree) : List Frame → Tree
  | [] => t
  | .items before :: frames => abandon (array (before.reverse ++ [t]) false) frames
  | .members before key :: frames =>
    abandon (object (before.reverse ++ [(key, t)]) false) frames

def Place.abandon (frames : List Frame) : Place → Tree
  | value => Tree.abandon broken frames
  | itemOrEnd => Tree.abandon (array [] false) frames
  | afterItem items => Tree.abandon (array items.reverse false) frames
  | keyOrEnd => Tree.abandon (object [] false) frames
  | key members => Tree.abandon (object members.reverse false) frames
  | colon members k => Tree.abandon (object (members.reverse ++ [(k, broken)]) false) frames
  | afterMember members => Tree.abandon (object members.reverse false) frames
  | done t => t

def complete (t : Tree) : List Frame → Place × List Frame
  | [] => (.done t, [])
  | .items before :: frames => (.afterItem (t :: before), frames)
  | .members before key :: frames => (.afterMember ((key, t) :: before), frames)

def startValue (frames : List Frame) : Token → Option (Place × List Frame)
  | .null => some (complete null frames)
  | .bool b => some (complete (bool b) frames)
  | .number n => some (complete (number n) frames)
  | .text s => some (complete (text s) frames)
  | .listStart => some (.itemOrEnd, frames)
  | .objectStart => some (.keyOrEnd, frames)
  | _ => none

def step (frames : List Frame) : Place → Token → Option (Place × List Frame)
  | .value, token => startValue frames token
  | .itemOrEnd, .listEnd => some (complete (array [] true) frames)
  | .itemOrEnd, token => startValue (.items [] :: frames) token
  | .afterItem items, .comma => some (.value, .items items :: frames)
  | .afterItem items, .listEnd => some (complete (array items.reverse true) frames)
  | .keyOrEnd, .objectEnd => some (complete (object [] true) frames)
  | .keyOrEnd, .text k => some (.colon [] k, frames)
  | .key members, .text k => some (.colon members k, frames)
  | .colon members k, .colon => some (.value, .members members k :: frames)
  | .afterMember members, .comma => some (.key members, frames)
  | .afterMember members, .objectEnd => some (complete (object members.reverse true) frames)
  | _, _ => none

/-- The value that the tokens begin with, and whether it is all there is. -/
def read (place : Place) (frames : List Frame) : List Token → Tree × Bool
  | [] =>
    match place with
    | .done t => (t, true)
    | place => (place.abandon frames, false)
  | token :: tokens =>
    match step frames place token with
    | some (place, frames) => read place frames tokens
    | none => (place.abandon frames, false)

def ofText (cs : List Char) : Tree × Bool := read .value [] (tokens cs)

end Tree

end ApiBindings.Json
