import ApiBindings.Decimal.Numeral
import ApiBindings.Reading.Datum
import ApiBindings.Yaml.Token

/-!
The values of scalars. A plain scalar without a tag is a null, a truth value or a number if it looks
like one; a tag may ask for one of these.
-/

namespace ApiBindings.Yaml

def isNullWord (s : String) : Bool := s = "null" || s = "Null" || s = "NULL" || s = "~"

def boolWord? (s : String) : Option Bool :=
  if s = "true" ∨ s = "True" ∨ s = "TRUE" then some true
  else if s = "false" ∨ s = "False" ∨ s = "FALSE" then some false
  else none

/-- Digits after a leading zero make a text, not a number. -/
def isZeroPadded (cs : List Char) : Bool :=
  let ds :=
    match cs with
    | '-' :: ds => ds
    | '+' :: ds => ds
    | ds => ds
  match ds with
  | '0' :: d :: ds => (d :: ds).all Char.isDigit
  | _ => false

/-- A number in base 16, 8 or 2 after its mark, or in base 10. -/
def magnitude? : List Char → Option Nat
  | '0' :: 'x' :: ds => Decimal.natural? 16 ds
  | '0' :: 'o' :: ds => Decimal.natural? 8 ds
  | '0' :: 'b' :: ds => Decimal.natural? 2 ds
  | ds => Decimal.natural? 10 ds

def integer? (cs : List Char) : Option Int :=
  if isZeroPadded cs then none
  else
    match cs with
    | '-' :: cs => (magnitude? cs).map fun n => -(n : Int)
    | '+' :: cs => (magnitude? cs).map Int.ofNat
    | cs => (magnitude? cs).map Int.ofNat

/-- Whether a whole number fits 64 bits, with or without a sign. -/
def isWord64 (n : Int) : Bool := -(Nat.pow 2 63 : Int) ≤ n && n < (Nat.pow 2 64 : Int)

def isWord128 (n : Int) : Bool := -(Nat.pow 2 127 : Int) ≤ n && n < (Nat.pow 2 128 : Int)

def special? (cs : List Char) : Option Float :=
  let unsigned := if cs.head? = some '+' then cs.tail else cs
  if [".inf", ".Inf", ".INF"].contains (String.ofList unsigned) then some Decimal.infinity
  else if ["-.inf", "-.Inf", "-.INF"].contains (String.ofList cs) then some (-Decimal.infinity)
  else if [".nan", ".NaN", ".NAN"].contains (String.ofList cs) then some (0 / 0)
  else none

def float? (cs : List Char) : Option Float :=
  match special? cs with
  | some x => some x
  | none =>
    match cs with
    | '+' :: '+' :: _ => none
    | '+' :: '-' :: _ => none
    | cs => (Decimal.signed? cs).filter (·.isFinite)

/-- A whole number outside 64 bits is refused as long as it fits 128 bits, and else a float. -/
def plainDatum? (s : String) : Option Datum :=
  let cs := s.toList
  let fraction : Datum :=
    if isZeroPadded cs then .text s else ((float? cs).map Datum.float).getD (.text s)
  if s = "" ∨ isNullWord s then some .null
  else
    match boolWord? s with
    | some b => some (.bool b)
    | none =>
      match integer? cs with
      | some n =>
        if isWord64 n then some (.int n) else if isWord128 n then none else some fraction
      | none => some fraction

def coreTag (name : String) : String := "tag:yaml.org,2002:" ++ name

def isLocalTag (tag : Option String) : Bool := tag.any (·.toList.head? == some '!')

def scalarDatum? (tag : Option String) (style : Style) (s : String) : Option Datum :=
  match tag with
  | none => if style = .plain then plainDatum? s else some (.text s)
  | some t =>
    if isLocalTag tag then none
    else if t = coreTag "bool" then (boolWord? s).map .bool
    else if t = coreTag "int" then
      (integer? s.toList).bind fun n => if isWord64 n then some (.int n) else none
    else if t = coreTag "float" then (float? s.toList).map .float
    else if t = coreTag "null" then if isNullWord s then some .null else none
    else some (.text s)

end ApiBindings.Yaml
