import ApiBindings.Files.Basic
import ApiBindings.Files.Path
import ApiBindings.OrderedMap

/-!
The files and directories of a system as a value, with the directory from which paths are seen.
-/

namespace ApiBindings

inductive FileNode
  | directory
  | file (text : String)
  deriving DecidableEq

/-- Each node is found by the names that lead to it from the root. `home` is the place of the
working directory. -/
structure FileTree where
  nodes : OrderedMap (List String) FileNode := ∅
  home : List String := []

namespace FileTree

def node? (t : FileTree) (place : List String) : Option FileNode :=
  if place = [] then some .directory else t.nodes.get? place

def put (t : FileTree) (place : List String) (node : FileNode) : FileTree :=
  { t with nodes := t.nodes.insert place node }

theorem node?_put {t : FileTree} {place other : List String} {node : FileNode}
    (hplace : place ≠ []) :
    (t.put place node).node? other = if place = other then some node else t.node? other := by
  by_cases hother : other = []
  · have hne : place ≠ other := fun h => hplace (h.trans hother)
    rw [node?, if_pos hother, if_neg hne, node?, if_pos hother]
  · rw [node?, if_neg hother, put, OrderedMap.get?_insert, node?, if_neg hother]

def step? (t : FileTree) (place : List String) (name : String) : Option (List String) :=
  if t.node? place ≠ some .directory then none
  else if name = "" ∨ name = "." then some place
  else if name = ".." then some place.dropLast
  else some (place ++ [name])

def start (t : FileTree) (path : String) : List String :=
  if Path.isAbsolute path then [] else t.home

def names? (path : String) : Option (List String) :=
  if path = "" then none else some ((Path.names path).map String.ofList)

def locate? (t : FileTree) (path : String) : Option (List String) := do
  (← names? path).foldlM t.step? (t.start path)

def isPresent (t : FileTree) (path : String) : Bool := ((t.locate? path).bind t.node?).isSome

def read? (t : FileTree) (path : String) : Option String :=
  match (t.locate? path).bind t.node? with
  | some (.file text) => some text
  | _ => none

/-- Creates the directories that are missing on the way along `names`, up to the first name that
cannot be followed; answers whether there was none. -/
def createAlong (t : FileTree) (place : List String) : List String → Bool × FileTree
  | [] => (true, t)
  | name :: names =>
    match t.step? place name with
    | none => (false, t)
    | some next =>
      match t.node? next with
      | some .directory => createAlong t next names
      | some (.file _) => (false, t)
      | none => createAlong (t.put next .directory) next names

def createDirectories (t : FileTree) (path : String) : Bool × FileTree :=
  match names? path with
  | none => (false, t)
  | some names => t.createAlong (t.start path) names

/-- A file is written into a directory that exists, and never in the place of a directory. -/
def write? (t : FileTree) (path text : String) : Option FileTree := do
  let place ← t.locate? path
  if t.node? place = some .directory then none else some (t.put place (.file text))

def write (t : FileTree) (path text : String) : Bool × FileTree :=
  match t.write? path text with
  | none => (false, t)
  | some t' => (true, t')

instance : FileSystem (StateM FileTree) where
  isPresent path := fun t => (t.isPresent path, t)
  read? path := fun t => (t.read? path, t)
  createDirectories path := fun t => t.createDirectories path
  write path text := fun t => t.write path text

/-- A working directory below the root, with nothing in it. -/
def blank : FileTree := ({ home := ["home"] } : FileTree).put ["home"] .directory

def ofFiles (files : List (String × String)) : FileTree :=
  files.foldl
    (fun t (path, text) => ((t.createDirectories (Path.parent path)).2.write path text).2) blank

/-- The files below the working directory with their paths. -/
def files (t : FileTree) : List (String × String) :=
  t.nodes.entries.filterMap fun (place, node) =>
    match node with
    | .file text =>
      if t.home.isPrefixOf place then
        some ("/".intercalate (place.drop t.home.length), text)
      else none
    | .directory => none

/-- The files that are new or have another text. -/
def changesSince (t earlier : FileTree) : List (String × String) :=
  t.files.filter fun file => !earlier.files.contains file

end FileTree

end ApiBindings
