/-!
The fewest decimal digits that identify a floating-point number, chosen in exact arithmetic on its
bits.
-/

namespace ApiBindings.Decimal

/-- A finite number above zero: `mantissa * 2 ^ exponent`. Below a power of two the gap to the next
number is half as wide as above it. -/
structure Binary where
  mantissa : Nat
  exponent : Int
  narrowBelow : Bool

structure Digits where
  digits : List Nat
  point : Int
  deriving DecidableEq

def Binary.ofBits (bits : Nat) : Binary :=
  let fraction : Nat := bits % Nat.pow 2 52
  let biased : Nat := bits / Nat.pow 2 52 % Nat.pow 2 11
  if biased = 0 then ⟨fraction, -1074, false⟩
  else ⟨fraction + Nat.pow 2 52, (biased : Int) - 1075, fraction = 0 && biased > 1⟩

/-- `k * 2 ^ (exponent - 2)` as a quotient of naturals: quarters of the last binary place. -/
def Binary.quarters (b : Binary) (k : Nat) : Nat × Nat :=
  if 2 ≤ b.exponent then (k * Nat.pow 2 (b.exponent - 2).toNat, 1)
  else (k, Nat.pow 2 (2 - b.exponent).toNat)

def Binary.value (b : Binary) : Nat × Nat := b.quarters (4 * b.mantissa)

/-- Whether `n / d` rounds to `b`: the ends of the interval count if the mantissa is even. -/
def Binary.readsBack (b : Binary) (n d : Nat) : Bool :=
  let low := b.quarters (4 * b.mantissa - if b.narrowBelow then 1 else 2)
  let high := b.quarters (4 * b.mantissa + 2)
  if b.mantissa % 2 = 0 then low.1 * d ≤ n * low.2 && n * high.2 ≤ high.1 * d
  else low.1 * d < n * low.2 && n * high.2 < high.1 * d

/-- The least `p` with `n / d < 10 ^ p`, for quotients of at least `10 ^ (-400)`. -/
def scale (n d : Nat) : Int := ((Nat.toDigits 10 (n * Nat.pow 10 400 / d)).length : Int) - 400

def unitsOf (n d : Nat) (e : Int) : Nat × Nat :=
  if 0 ≤ e then (n, d * Nat.pow 10 e.toNat) else (n * Nat.pow 10 (-e).toNat, d)

/-- The multiple of `10 ^ e` nearest to `b` that reads back as `b`, an even one if two are. -/
def Binary.onGrid? (b : Binary) (e : Int) : Option Nat :=
  let (n, d) := b.value
  let (un, ud) := unitsOf n d e
  let below := un / ud
  let reads (k : Nat) : Bool :=
    if 0 ≤ e then b.readsBack (k * Nat.pow 10 e.toNat) 1 else b.readsBack k (Nat.pow 10 (-e).toNat)
  let twice := 2 * un
  let middle := (2 * below + 1) * ud
  let nearest :=
    if twice < middle then below
    else if middle < twice then below + 1
    else if below % 2 = 0 then below else below + 1
  if reads nearest then some nearest else none

def digitsOf (k : Nat) : List Nat := (Nat.toDigits 10 k).map (·.toNat - 48)

def Digits.stripped (ds : List Nat) (point : Int) : Digits :=
  ⟨(ds.reverse.dropWhile (· = 0)).reverse, point⟩

/-- Tries the grids from `n` significant digits upwards, `fuel` of them. -/
def Binary.search (b : Binary) (p : Int) (n : Nat) : Nat → Digits
  | 0 =>
    let (v, d) := b.value
    let k := v * Nat.pow 10 1100 / d
    let ds := digitsOf k
    Digits.stripped ds (ds.length - 1100)
  | fuel + 1 =>
    match b.onGrid? (p - n) with
    | some k => let ds := digitsOf k; Digits.stripped ds (ds.length + (p - n))
    | none => b.search p (n + 1) fuel

/-- Seventeen digits always suffice. -/
def Binary.shortest (b : Binary) : Digits :=
  let (n, d) := b.value
  b.search (scale n d) 1 17

end ApiBindings.Decimal
