import ApiBindings.Decimal.Layout
import ApiBindings.OrderedMap
import ApiBindings.Text.Quoted

/-!
Free-form values and their text. Whole numbers are kept exactly; every other number is a finite
float.
-/

namespace ApiBindings

inductive Json
  | null
  | bool (b : Bool)
  | int (n : Int)
  | float (x : Float)
  | string (s : String)
  | array (items : List Json)
  | object (members : List (String × Json))

namespace Json

instance : Inhabited Json := ⟨null⟩

/-- Floats from 1e-5 up to 1e16 are written without an exponent. -/
def numberLayout : Decimal.Layout := ⟨some (-4), some 16, true⟩

def floatText (x : Float) : String := String.ofList (numberLayout.render x)

def asString? : Json → Option String
  | string s => some s
  | _ => none

/-- Zero, the empty text, `false` and `null` do not hold. -/
def isTruthy : Json → Bool
  | null => false
  | bool b => b
  | int n => n ≠ 0
  | float x => x != 0
  | string s => s ≠ ""
  | array _ => true
  | object _ => true

mutual
def compact : Json → String
  | null => "null"
  | bool b => if b then "true" else "false"
  | int n => n.repr
  | float x => floatText x
  | string s => Text.quote s
  | array items => "[" ++ compactItems items ++ "]"
  | object members => "\x7b" ++ compactMembers members ++ "\x7d"

def compactItems : List Json → String
  | [] => ""
  | [item] => compact item
  | item :: items => compact item ++ "," ++ compactItems items

def compactMembers : List (String × Json) → String
  | [] => ""
  | [(key, value)] => Text.quote key ++ ":" ++ compact value
  | (key, value) :: members =>
    Text.quote key ++ ":" ++ compact value ++ "," ++ compactMembers members
end

def newline (depth : Nat) : String := "\n" ++ String.ofList (List.replicate (2 * depth) ' ')

mutual
/-- One line for each item and member, two blanks for each level. -/
def pretty (depth : Nat) : Json → String
  | array [] => "[]"
  | array (item :: items) =>
    "[" ++ prettyItems (depth + 1) (item :: items) ++ newline depth ++ "]"
  | object [] => "\x7b\x7d"
  | object (member :: members) =>
    "\x7b" ++ prettyMembers (depth + 1) (member :: members) ++ newline depth ++ "\x7d"
  | null => "null"
  | bool b => if b then "true" else "false"
  | int n => n.repr
  | float x => floatText x
  | string s => Text.quote s

def prettyItems (depth : Nat) : List Json → String
  | [] => ""
  | [item] => newline depth ++ pretty depth item
  | item :: items => newline depth ++ pretty depth item ++ "," ++ prettyItems depth items

def prettyMembers (depth : Nat) : List (String × Json) → String
  | [] => ""
  | [(key, value)] => newline depth ++ Text.quote key ++ ": " ++ pretty depth value
  | (key, value) :: members =>
    newline depth ++ Text.quote key ++ ": " ++ pretty depth value ++ "," ++
      prettyMembers depth members
end

end Json

end ApiBindings
