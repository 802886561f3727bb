import ApiBindings.Json
import ApiBindings.Text.Casing
import ApiBindings.Text.Search

/-!
The values that templates work on, and their text.
-/

namespace ApiBindings.Template

/-- Maps hold their members in the order of their keys. An object has fields too, but a text of its
own. -/
inductive Value
  | undefined
  | none
  | bool (b : Bool)
  | int (n : Int)
  | float (x : Float)
  | text (s : String)
  | list (items : List Value)
  | map (members : List (Value × Value))
  | object (label : String) (fields : List (String × Value))

inductive TemplateError
  | malformed
  | badEscape
  | notFound (name : String)
  | insideInclude
  | undefinedValue
  | unknownFilter (name : String)
  | tooManyArguments
  | cannotUnpack
  | invalidOperation
  deriving DecidableEq

namespace Value

instance : Inhabited Value := ⟨undefined⟩

/-- The order of values of different kinds. -/
def rank : Value → Nat
  | undefined => 0
  | none => 1
  | bool _ => 2
  | int _ => 3
  | float _ => 3
  | text _ => 4
  | list _ => 6
  | map _ => 7
  | object _ _ => 9

def toFloat? : Value → Option Float
  | bool b => some (if b then 1 else 0)
  | int n => some (Float.ofInt n)
  | float x => some x
  | _ => Option.none

def toInt? : Value → Option Int
  | bool b => some (if b then 1 else 0)
  | int n => some n
  | _ => Option.none

def isFloat : Value → Bool
  | float _ => true
  | _ => false

/-- Whether a float has just this value: only as many bits matter as its significand has. -/
def fitsFloat (n : Int) : Bool := n.natAbs % Nat.pow 2 (n.natAbs.log2 - 52) = 0

def exactFloat? (v : Value) : Option Float :=
  match v with
  | int n => if fitsFloat n then some (Float.ofInt n) else Option.none
  | v => v.toFloat?

/-- Equality of numbers and truth values, whatever their kind. -/
def numberEq (a b : Value) : Bool :=
  if a.isFloat || b.isFloat then
    match a.exactFloat?, b.exactFloat? with
    | some x, some y => x == y
    | _, _ => false
  else
    match a.toInt?, b.toInt? with
    | some m, some n => m = n
    | _, _ => false

mutual
def eq : Value → Value → Bool
  | undefined, undefined => true
  | none, none => true
  | text a, text b => a = b
  | list a, list b => eqItems a b
  | map a, map b => eqMembers a b
  | object a _, object b _ => a = b
  | a, b => numberEq a b

def eqItems : List Value → List Value → Bool
  | [], [] => true
  | a :: as, b :: bs => eq a b && eqItems as bs
  | _, _ => false

def eqMembers : List (Value × Value) → List (Value × Value) → Bool
  | [], [] => true
  | (k, a) :: as, (l, b) :: bs => eq k l && eq a b && eqMembers as bs
  | _, _ => false
end

/-- A number that grows with the float; zeros are told apart by their sign. -/
def floatKey (x : Float) : Int :=
  let bits := x.toBits.toNat
  if bits < Nat.pow 2 63 then bits else (Nat.pow 2 63 : Int) - bits - 1

def numberOrder (a b : Value) : Ordering :=
  match a.toInt?, b.toInt? with
  | some m, some n => compare m n
  | _, _ =>
    match a.toFloat?, b.toFloat? with
    | some x, some y => compare (floatKey x) (floatKey y)
    | _, _ => .eq

mutual
/-- The order of keys: by kind, then numbers by size, texts by their characters, lists and maps by
their first difference. -/
def order : Value → Value → Ordering
  | text s, text t => compare s t
  | list as, list bs => orderItems as bs
  | map as, map bs => orderMembers as bs
  | a, b => (compare a.rank b.rank).then (numberOrder a b)

def orderItems : List Value → List Value → Ordering
  | [], [] => .eq
  | [], _ :: _ => .lt
  | _ :: _, [] => .gt
  | a :: as, b :: bs => (order a b).then (orderItems as bs)

def orderMembers : List (Value × Value) → List (Value × Value) → Ordering
  | [], [] => .eq
  | [], _ :: _ => .lt
  | _ :: _, [] => .gt
  | (k, a) :: as, (l, b) :: bs => ((order k l).then (order a b)).then (orderMembers as bs)
end

def putMember (key value : Value) : List (Value × Value) → List (Value × Value)
  | [] => [(key, value)]
  | (k, v) :: members =>
    match order key k with
    | .lt => (key, value) :: (k, v) :: members
    | .eq => (k, value) :: members
    | .gt => (k, v) :: putMember key value members

def ofMembers (members : List (Value × Value)) : Value :=
  map (members.foldl (fun ms (k, v) => putMember k v ms) [])

def ofFields (fields : List (String × Value)) : Value :=
  ofMembers (fields.map fun (k, v) => (text k, v))

def ofOption (s : Option String) : Value := s.elim none text

def texts (xs : List String) : Value := list (xs.map text)

mutual
def ofJson : Json → Value
  | .null => none
  | .bool b => bool b
  | .int n => int n
  | .float x => float x
  | .string s => text s
  | .array items => list (ofJsonItems items)
  | .object members => ofMembers (ofJsonMembers members)

def ofJsonItems : List Json → List Value
  | [] => []
  | item :: items => ofJson item :: ofJsonItems items

def ofJsonMembers : List (String × Json) → List (Value × Value)
  | [] => []
  | (key, value) :: members => (text key, ofJson value) :: ofJsonMembers members
end

def isTrue : Value → Bool
  | undefined => false
  | none => false
  | bool b => b
  | int n => n ≠ 0
  | float x => x != 0
  | text s => s ≠ ""
  | list items => !items.isEmpty
  | map members => !members.isEmpty
  | object _ _ => true

/-- Floats on their own are never written with an exponent. -/
def floatLayout : Decimal.Layout := ⟨Option.none, Option.none, false⟩

/-- Floats inside lists and maps have no exponent from 1e-4 up to 1e16. -/
def nestedFloatLayout : Decimal.Layout := ⟨some (-3), some 16, false⟩

def floatText (layout : Decimal.Layout) (x : Float) : String :=
  if x.isNaN then "NaN"
  else if x.isInf then if x < 0 then "-inf" else "inf"
  else String.ofList (layout.render x)

def escapeChar (c : Char) : List Char :=
  if c = '"' then ['\\', '"']
  else if c = '\\' then ['\\', '\\']
  else if c = '\n' then ['\\', 'n']
  else if c = '\r' then ['\\', 'r']
  else if c = '\t' then ['\\', 't']
  else if c.toNat = 0 then ['\\', '0']
  else if Text.isPrintable c then [c]
  else '\\' :: 'u' :: '\x7b' :: (Nat.toDigits 16 c.toNat ++ ['\x7d'])

def quoted (s : String) : String :=
  String.ofList ('"' :: (s.toList.flatMap escapeChar ++ ['"']))

mutual
def nested : Value → String
  | undefined => "undefined"
  | none => "None"
  | bool b => if b then "True" else "False"
  | int n => n.repr
  | float x => floatText nestedFloatLayout x
  | text s => quoted s
  | list items => "[" ++ nestedItems items ++ "]"
  | map members => "\x7b" ++ nestedMembers members ++ "\x7d"
  | object label _ => label

def nestedItems : List Value → String
  | [] => ""
  | [item] => nested item
  | item :: items => nested item ++ ", " ++ nestedItems items

def nestedMembers : List (Value × Value) → String
  | [] => ""
  | [(key, value)] => nested key ++ ": " ++ nested value
  | (key, value) :: members =>
    nested key ++ ": " ++ nested value ++ ", " ++ nestedMembers members
end

def print : Value → String
  | undefined => ""
  | text s => s
  | float x => floatText floatLayout x
  | v => nested v

def iterate? : Value → Option (List Value)
  | undefined => some []
  | none => some []
  | text s => some (s.toList.map fun c => text (String.ofList [c]))
  | list items => some items
  | map members => some (members.map Prod.fst)
  | _ => Option.none

def member? (key : Value) (members : List (Value × Value)) : Option Value :=
  (members.find? fun (k, _) => order k key = .eq).map Prod.snd

def fieldOf (name : String) (fields : List (String × Value)) : Value :=
  ((fields.find? (·.1 = name)).map Prod.snd).getD undefined

def field (v : Value) (name : String) : Except TemplateError Value :=
  match v with
  | undefined => .error .undefinedValue
  | map members => .ok ((member? (text name) members).getD undefined)
  | object _ fields => .ok (fieldOf name fields)
  | _ => .ok undefined

/-- The number that a value is as an index; a float has to be whole. -/
def index? : Value → Option Int
  | float x =>
    let n := x.toInt64.toInt
    if Float.ofInt n == x then some n else Option.none
  | v => v.toInt?

/-- An index below zero counts from the end. -/
def position? (size : Nat) (i : Int) : Option Nat :=
  if 0 ≤ i then some i.toNat
  else if 0 ≤ i + size then some (i + size).toNat
  else Option.none

def item (v key : Value) : Except TemplateError Value :=
  match v with
  | undefined => .error .undefinedValue
  | map members => .ok ((member? key members).getD undefined)
  | list items =>
    .ok (((key.index?.bind (position? items.length)).bind fun i => items[i]?).getD undefined)
  | text s =>
    let cs := s.toList
    .ok (((key.index?.bind (position? cs.length)).bind fun i =>
      cs[i]?.map fun c => text (String.ofList [c])).getD undefined)
  | object _ fields =>
    match key with
    | text name => .ok (fieldOf name fields)
    | _ => .ok undefined
  | _ => .ok undefined

/-- Whole numbers that are worked on have 127 bits and a sign. -/
def isWord (n : Int) : Bool := -(Nat.pow 2 127 : Int) ≤ n && n < (Nat.pow 2 127 : Int)

def word? (n : Int) : Option Int := if isWord n then some n else Option.none

/-- Two numbers to work on. If both have more than 64 bits they may have all of 128 bits, and then
wrap around. -/
def words? (m n : Int) : Option (Int × Int) :=
  let wrap (n : Int) : Int := if isWord n then n else n - (Nat.pow 2 128 : Int)
  if (Nat.pow 2 64 : Int) ≤ m ∧ (Nat.pow 2 64 : Int) ≤ n then some (wrap m, wrap n)
  else do return (← word? m, ← word? n)

def add (a b : Value) : Except TemplateError Value :=
  let sum : Option Value :=
    match a, b with
    | list xs, list ys => some (list (xs ++ ys))
    | text s, text t => some (text (s ++ t))
    | a, b =>
      if a.isFloat || b.isFloat then do return float ((← a.toFloat?) + (← b.toFloat?))
      else do
        let (m, n) ← words? (← a.toInt?) (← b.toInt?)
        return int (← word? (m + n))
  sum.elim (.error .invalidOperation) .ok

/-- The least number is written as a magnitude that is out of range without its sign. -/
def negate (v : Value) : Except TemplateError Value :=
  match v with
  | int n => if isWord (-n) then .ok (int (-n)) else .error .invalidOperation
  | float x => .ok (float (-x))
  | _ => .error .invalidOperation

def contains (container v : Value) : Except TemplateError Value :=
  match container with
  | undefined => .ok (bool false)
  | text s => .ok (bool (Text.contains v.print.toList s.toList))
  | list items => .ok (bool (items.any (eq v)))
  | map members => .ok (bool (member? v members).isSome)
  | object _ _ => .ok (bool false)
  | _ => .error .invalidOperation

end Value

end ApiBindings.Template
