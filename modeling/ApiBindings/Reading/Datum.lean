import ApiBindings.Json

/-!
Values read in full before it is known what they stand for. Keys may be of any shape.
-/

namespace ApiBindings

inductive Datum
  | null
  | bool (b : Bool)
  | int (n : Int)
  | float (x : Float)
  | text (s : String)
  | list (items : List Datum)
  | table (members : List (Datum × Datum))

namespace Datum

mutual
def height : Datum → Nat
  | list items => heightItems items + 1
  | table members => heightMembers members + 1
  | null => 0
  | bool _ => 0
  | int _ => 0
  | float _ => 0
  | text _ => 0

def heightItems : List Datum → Nat
  | [] => 0
  | item :: items => max (height item) (heightItems items)

def heightMembers : List (Datum × Datum) → Nat
  | [] => 0
  | (_, value) :: members => max (height value) (heightMembers members)
end

mutual
/-- A repeated key keeps its first place and its last value. A number that is not finite has no
free-form value, a key that is no text refuses the whole. -/
def toJson? : Datum → Option Json
  | null => some .null
  | bool b => some (.bool b)
  | int n => some (.int n)
  | float x => some (if x.isFinite then .float x else .null)
  | text s => some (.string s)
  | list items => (itemsToJson? items).map .array
  | table members => (membersToJson? [] members).map .object

def itemsToJson? : List Datum → Option (List Json)
  | [] => some []
  | item :: items => do return (← toJson? item) :: (← itemsToJson? items)

def membersToJson? (before : List (String × Json)) :
    List (Datum × Datum) → Option (List (String × Json))
  | [] => some before
  | (text key, value) :: members => do
    let value ← toJson? value
    membersToJson? (Entries.put key value before) members
  | _ :: _ => none
end

end Datum

mutual
def Json.toDatum : Json → Datum
  | .null => .null
  | .bool b => .bool b
  | .int n => .int n
  | .float x => .float x
  | .string s => .text s
  | .array items => .list (itemsToDatum items)
  | .object members => .table (membersToDatum members)

def itemsToDatum : List Json → List Datum
  | [] => []
  | item :: items => item.toDatum :: itemsToDatum items

def membersToDatum : List (String × Json) → List (Datum × Datum)
  | [] => []
  | (key, value) :: members => (.text key, value.toDatum) :: membersToDatum members
end

end ApiBindings
