import ApiBindings.Json
import ApiBindings.Json.Token

/-!
The value of a written number. Digits are collected as long as the result fits 64 bits; the digits
after that only shift the point.
-/

namespace ApiBindings.Json.Numeral

/-- `value * 10 ^ exponent`. -/
structure Scaled where
  value : Nat
  exponent : Int

def wordLimit : Nat := Nat.pow 2 64

/-- Whole digits that no longer fit raise the exponent; `full` tells that one did not fit. -/
def addWhole (full : Bool) (s : Scaled) : List Nat → Bool × Scaled
  | [] => (full, s)
  | d :: ds =>
    if full ∨ wordLimit ≤ s.value * 10 + d then addWhole true ⟨s.value, s.exponent + 1⟩ ds
    else addWhole false ⟨s.value * 10 + d, s.exponent⟩ ds

/-- Digits after the point are dropped from the first one that does not fit. -/
def addFraction (s : Scaled) : List Nat → Scaled
  | [] => s
  | d :: ds =>
    if wordLimit ≤ s.value * 10 + d then s
    else addFraction ⟨s.value * 10 + d, s.exponent - 1⟩ ds

def power (k : Nat) : Float := Float.ofScientific 1 false k

def greatestPower : Nat := 308

/-- `x / 10 ^ k` in steps of the greatest power of ten. -/
def divided (x : Float) (k : Nat) : Float :=
  if k ≤ greatestPower then x / power k
  else if x == 0 then x
  else divided (x / power greatestPower) (k - greatestPower)
termination_by k
decreasing_by simp only [greatestPower] at *; omega

/-- No value above the range of floats. -/
def Scaled.toFloat? (s : Scaled) : Option Float :=
  let x := Float.ofScientific s.value false 0
  if s.exponent < 0 then some (divided x (-s.exponent).toNat)
  else if greatestPower < s.exponent.toNat then if x == 0 then some x else none
  else
    let y := x * power s.exponent.toNat
    if y.isInf then none else some y

def exponentLimit : Nat := Nat.pow 2 31

def exponentValue (ds : List Nat) : Nat := ds.foldl (fun n d => n * 10 + d) 0

def signed (negative : Bool) (x : Float) : Float := if negative then -x else x

/-- Digits alone make a whole number of 64 bits, with `-0` as a float. An exponent too great to be
counted leaves zero or no value. -/
def value? (n : Numeral) : Option Json :=
  let (full, whole) := addWhole false ⟨0, 0⟩ n.whole
  let s := addFraction whole (n.fraction.getD [])
  let float? (s : Scaled) := s.toFloat?.map fun x => .float (signed n.negative x)
  match n.exponent with
  | some (down, ds) =>
    let e := exponentValue ds
    if exponentLimit ≤ e then
      if s.value ≠ 0 ∧ !down then none else some (.float (signed n.negative 0))
    else float? ⟨s.value, if down then s.exponent - e else s.exponent + e⟩
  | none =>
    if full ∨ n.fraction.isSome then float? s
    else if !n.negative then some (.int s.value)
    else if s.value = 0 ∨ wordLimit / 2 < s.value then float? s
    else some (.int (-s.value))

end ApiBindings.Json.Numeral
