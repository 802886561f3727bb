/-!
Reading floating-point numbers: digits with an optional point, exponent and sign, rounded to the
nearest.
-/

namespace ApiBindings.Decimal

def natural? (base : Nat) (cs : List Char) : Option Nat :=
  if cs.isEmpty then none
  else cs.foldlM (fun n c =>
    let d :=
      if c.isDigit then c.toNat - 48
      else if 'a' ≤ c ∧ c ≤ 'z' then c.toNat - 87
      else if 'A' ≤ c ∧ c ≤ 'Z' then c.toNat - 55
      else base
    if d < base then some (n * base + d) else none) 0

def infinity : Float := 1 / 0

/-- `m * 10 ^ e`, where exponents far out of range are not computed; infinity for a number above all
floats. -/
def float (m : Nat) (e : Int) : Float :=
  let size := ((Nat.toDigits 10 m).length : Int) + e
  if m = 0 ∨ size < -400 then 0
  else if 400 < size then infinity
  else Float.ofScientific m (e < 0) e.natAbs

def exponent? : List Char → Option Int
  | [] => some 0
  | c :: cs =>
    if c = 'e' ∨ c = 'E' then
      match cs with
      | '-' :: ds => (natural? 10 ds).map fun n => -(n : Int)
      | '+' :: ds => (natural? 10 ds).map Int.ofNat
      | ds => (natural? 10 ds).map Int.ofNat
    else none

def unsigned? (cs : List Char) : Option Float :=
  let whole := cs.takeWhile Char.isDigit
  let rest := cs.dropWhile Char.isDigit
  let (part, rest) :=
    match rest with
    | '.' :: rest => (rest.takeWhile Char.isDigit, rest.dropWhile Char.isDigit)
    | rest => ([], rest)
  do
    let m ← natural? 10 (whole ++ part)
    let e ← exponent? rest
    return float m (e - part.length)

def signed? : List Char → Option Float
  | '-' :: cs => (unsigned? cs).map fun x => -x
  | '+' :: cs => unsigned? cs
  | cs => unsigned? cs

end ApiBindings.Decimal
