import ApiBindings.Text.Search

/-!
Paths as texts. A slash separates the names; empty names and single dots lead nowhere.
-/

namespace ApiBindings.Path

def isAbsolute (path : String) : Bool := path.toList.head? = some '/'

/-- A path seen from a directory. An absolute path stays as it is. -/
def join (dir path : String) : String :=
  if isAbsolute path ∨ dir = "" then path
  else if dir.toList.getLast? = some '/' then dir ++ path
  else dir ++ "/" ++ path

def names (path : String) : List (List Char) := Text.splitAt '/' path.toList

/-- Names from the last one on, without those at the end that lead nowhere. A dot that a path starts
with counts as a name. -/
def trimmed : List (List Char) → List (List Char)
  | [] => []
  | name :: before =>
    if name = [] ∨ (name = ['.'] ∧ before ≠ []) then trimmed before else name :: before

def namesFromLast (path : String) : List (List Char) := trimmed (names path).reverse

def parent (path : String) : String :=
  String.ofList (Text.joinWith ['/'] (trimmed ((namesFromLast path).drop 1)).reverse)

/-- What follows the last dot of the last name, unless the name starts with that dot. -/
def extension? (path : String) : Option String := do
  let name ← (namesFromLast path).head?
  if name = ['.', '.'] then none
  else
    let (ending, stem) ← Text.cutAt? '.' name.reverse
    if stem.isEmpty then none else some (String.ofList ending.reverse)

end ApiBindings.Path
