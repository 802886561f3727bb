import ApiBindings.Text.Search
import ApiBindings.Text.Unit16

/-!
The tokens of a JSON text. A text that breaks off or holds what is no token ends with `bad`.
-/

namespace ApiBindings.Json

structure Numeral where
  negative : Bool
  whole : List Nat
  fraction : Option (List Nat)
  exponent : Option (Bool × List Nat)

inductive Token
  | listStart
  | listEnd
  | objectStart
  | objectEnd
  | comma
  | colon
  | null
  | bool (b : Bool)
  | number (n : Numeral)
  /-- Nothing for a text with half of a surrogate pair in it. -/
  | text (s : Option String)
  | bad

namespace Token

def isBlank (c : Char) : Bool := c = ' ' || c = '\n' || c = '\r' || c = '\t'

def digitValue (c : Char) : Nat := c.toNat - 48

def digits (cs : List Char) : List Nat × List Char :=
  ((cs.takeWhile Char.isDigit).map digitValue, cs.dropWhile Char.isDigit)

/-- A number's whole part has no leading zero. -/
def wholePart? (cs : List Char) : Option (List Nat × List Char) :=
  match digits cs with
  | ([], _) => none
  | (0 :: _ :: _, _) => none
  | found => some found

def fractionPart? : List Char → Option (Option (List Nat) × List Char)
  | '.' :: cs =>
    match digits cs with
    | ([], _) => none
    | (ds, rest) => some (some ds, rest)
  | cs => some (none, cs)

def exponentPart? : List Char → Option (Option (Bool × List Nat) × List Char)
  | c :: cs =>
    if c = 'e' ∨ c = 'E' then
      let (negative, rest) :=
        match cs with
        | '-' :: rest => (true, rest)
        | '+' :: rest => (false, rest)
        | rest => (false, rest)
      match digits rest with
      | ([], _) => none
      | (ds, rest) => some (some (negative, ds), rest)
    else some (none, c :: cs)
  | [] => some (none, [])

def numeral? (cs : List Char) : Option (Numeral × List Char) := do
  let (negative, cs) :=
    match cs with
    | '-' :: rest => (true, rest)
    | rest => (false, rest)
  let (whole, cs) ← wholePart? cs
  let (fraction, cs) ← fractionPart? cs
  let (exponent, cs) ← exponentPart? cs
  return (⟨negative, whole, fraction, exponent⟩, cs)

def hexValue? (c : Char) : Option Nat :=
  if c.isDigit then some (c.toNat - 48)
  else if 'a' ≤ c ∧ c ≤ 'f' then some (c.toNat - 87)
  else if 'A' ≤ c ∧ c ≤ 'F' then some (c.toNat - 55)
  else none

def hexUnit? (a b c d : Char) : Option Nat := do
  return (((← hexValue? a) * 16 + (← hexValue? b)) * 16 + (← hexValue? c)) * 16 + (← hexValue? d)

def escaped? : Char → Option Char
  | '"' => some '"'
  | '\\' => some '\\'
  | '/' => some '/'
  | 'b' => some '\x08'
  | 'f' => some '\x0c'
  | 'n' => some '\n'
  | 'r' => some '\r'
  | 't' => some '\t'
  | _ => none

/-- The text up to the closing quote, and what follows it. -/
def textUnits? : List Char → Option (List Text.Unit16 × List Char)
  | [] => none
  | '"' :: rest => some ([], rest)
  | '\\' :: 'u' :: a :: b :: c :: d :: rest => do
    let n ← hexUnit? a b c d
    let (units, rest) ← textUnits? rest
    return (.ofNat n :: units, rest)
  | '\\' :: c :: rest => do
    let c ← escaped? c
    let (units, rest) ← textUnits? rest
    return (.char c :: units, rest)
  | c :: rest => do
    if c.toNat < 32 then none
    else
      let (units, rest) ← textUnits? rest
      return (.char c :: units, rest)

def word? (w : String) (t : Token) (cs : List Char) : Option (Token × List Char) :=
  (Text.dropPrefix? w.toList cs).map (t, ·)

/-- The token that a text without leading blanks starts with. -/
def scan? : List Char → Option (Token × List Char)
  | [] => none
  | c :: rest =>
    match c with
    | '[' => some (listStart, rest)
    | ']' => some (listEnd, rest)
    | '\x7b' => some (objectStart, rest)
    | '\x7d' => some (objectEnd, rest)
    | ',' => some (comma, rest)
    | ':' => some (colon, rest)
    | 'n' => word? "null" null (c :: rest)
    | 't' => word? "true" (bool true) (c :: rest)
    | 'f' => word? "false" (bool false) (c :: rest)
    | '"' =>
      (textUnits? rest).map fun (units, rest) =>
        (text ((Text.joinUnits units).map String.ofList), rest)
    | _ => (numeral? (c :: rest)).map fun (n, rest) => (number n, rest)

def scanAll : Nat → List Char → List Token
  | 0, _ => []
  | fuel + 1, cs =>
    match cs.dropWhile isBlank with
    | [] => []
    | cs =>
      match scan? cs with
      | none => [bad]
      | some (token, rest) => token :: scanAll fuel rest

end Token

def tokens (cs : List Char) : List Token := Token.scanAll (cs.length + 1) cs

end ApiBindings.Json
