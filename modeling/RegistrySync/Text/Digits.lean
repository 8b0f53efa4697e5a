/-!
Numbers in digits, in a radix up to sixteen.
-/

namespace RegistrySync.Text

/-- The value of a digit; of a letter too, as hexadecimal numbers have them. -/
def hexValue? (c : Char) : Option Nat :=
  if '0' ≤ c ∧ c ≤ '9' then some (c.toNat - 48)
  else if 'a' ≤ c ∧ c ≤ 'f' then some (c.toNat - 87)
  else if 'A' ≤ c ∧ c ≤ 'F' then some (c.toNat - 55)
  else none

/-- A number in a radix; none if a character is no digit of it. -/
def inRadix (radix : Nat) (cs : List Char) : Option Nat :=
  cs.foldlM (fun n c => do
    let d ← hexValue? c
    guard (d < radix)
    return n * radix + d) 0

end RegistrySync.Text
