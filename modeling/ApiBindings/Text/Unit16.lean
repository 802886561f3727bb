/-!
Texts whose characters may be written as numbers of sixteen bits. A character beyond these numbers
is written as two halves, which have to stand side by side.
-/

namespace ApiBindings.Text

/-- A part of a text: a character, or one half of a pair. -/
inductive Unit16
  | char (c : Char)
  | high (n : Nat)
  | low (n : Nat)

def Unit16.ofNat (n : Nat) : Unit16 :=
  if 0xD800 ≤ n ∧ n < 0xDC00 then .high n
  else if 0xDC00 ≤ n ∧ n < 0xE000 then .low n
  else .char (Char.ofNat n)

/-- The text, unless a half stands alone. -/
def joinUnits : List Unit16 → Option (List Char)
  | [] => some []
  | .char c :: units => (joinUnits units).map (c :: ·)
  | .high h :: .low l :: units =>
    (joinUnits units).map (Char.ofNat (0x10000 + (h - 0xD800) * 0x400 + (l - 0xDC00)) :: ·)
  | _ :: _ => none

end ApiBindings.Text
