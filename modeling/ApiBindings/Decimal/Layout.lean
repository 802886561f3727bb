import ApiBindings.Decimal.Shortest

/-!
How the digits of a floating-point number are written down.
-/

namespace ApiBindings.Decimal

/-- The decisions of an output format. Numbers `0.d… * 10 ^ p` with `least ≤ p ≤ greatest` are
written positionally, all others with an exponent; without bounds every number is positional.
`plus` tells whether exponents that are not below zero have a sign. -/
structure Layout where
  least : Option Int
  greatest : Option Int
  plus : Bool

def digitText (ds : List Nat) : List Char := ds.map fun d => Char.ofNat (d + 48)

/-- Positional digits, with at least one on each side of the point. -/
def positional (d : Digits) : List Char :=
  let ds := digitText d.digits
  if d.point ≤ 0 then
    '0' :: '.' :: (List.replicate (-d.point).toNat '0' ++ ds)
  else
    let p := d.point.toNat
    let whole := ds.take p ++ List.replicate (p - ds.length) '0'
    let part := ds.drop p
    whole ++ '.' :: (if part.isEmpty then ['0'] else part)

def scientific (plus : Bool) (d : Digits) : List Char :=
  let e := d.point - 1
  let sign := if e < 0 then ['-'] else if plus then ['+'] else []
  let exponent := 'e' :: (sign ++ Nat.toDigits 10 e.natAbs)
  match digitText d.digits with
  | [] => '0' :: exponent
  | [c] => c :: exponent
  | c :: cs => c :: '.' :: (cs ++ exponent)

def Layout.isPositional (l : Layout) (p : Int) : Bool :=
  l.least.all (· ≤ p) && l.greatest.all (p ≤ ·)

def Layout.magnitude (l : Layout) (d : Digits) : List Char :=
  if l.isPositional d.point then positional d else scientific l.plus d

def Layout.render (l : Layout) (x : Float) : List Char :=
  let bits := x.toBits.toNat
  let sign := if bits / Nat.pow 2 63 = 1 then ['-'] else []
  let rest := bits % Nat.pow 2 63
  if rest = 0 then sign ++ ['0', '.', '0']
  else sign ++ l.magnitude (Binary.ofBits rest).shortest

end ApiBindings.Decimal
