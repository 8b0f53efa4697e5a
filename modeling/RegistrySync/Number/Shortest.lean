import RegistrySync.Number.Double

/-!
The shortest decimal that reads back.

The numbers that round to a double form an interval around it. For one digit, two digits and so
on, the two neighbours of the double on the grid of decimals of that length are tried: the first
grid with a neighbour inside the interval wins, and of two the nearer one. Seventeen digits are
always enough.
-/

namespace RegistrySync.Number

/-- The number `digits · 10 ^ exponent`. -/
structure Decimal where
  digits : Nat
  exponent : Int
  deriving DecidableEq, Repr

namespace Magnitude

/-- A quarter of the last place of the significand, in which the interval is told. -/
def quarters (x : Magnitude) : Nat := 4 * x.significand

/-- Whether the double below is only half as far away as the one above. -/
def isNarrowBelow (x : Magnitude) : Bool :=
  x.significand == Nat.pow 2 (precision - 1) && minExponent < x.exponent

/-- Whether `num / den` quarters round to `x`. -/
def attracts (x : Magnitude) (num den : Nat) : Bool :=
  let low := (if x.isNarrowBelow then x.quarters - 1 else x.quarters - 2) * den
  let high := (x.quarters + 2) * den
  if x.significand % 2 = 0 then low ≤ num && num ≤ high else low < num && num < high

/-- `10 ^ k` in quarters of `x`, as a quotient. -/
def tenPower (x : Magnitude) (k : Int) : Nat × Nat :=
  let tens := Nat.pow 10 k.natAbs
  let twos := Nat.pow 2 (x.exponent - 2).natAbs
  let (num, den) := if k < 0 then (1, tens) else (tens, 1)
  if x.exponent - 2 < 0 then (num * twos, den) else (num, den * twos)

/-- The better of the two neighbours of `x` on the grid of multiples of `10 ^ k`, if it reads
back. -/
def onGrid (x : Magnitude) (k : Int) : Option Decimal :=
  let (num, den) := x.tenPower k
  let below := x.quarters * den / num
  let downward := x.quarters * den - below * num
  let upward := (below + 1) * num - x.quarters * den
  let lowHit := 0 < below && x.attracts (below * num) den
  let highHit := x.attracts ((below + 1) * num) den
  if lowHit && highHit then
    if downward < upward || downward == upward && below % 2 == 0 then some ⟨below, k⟩
    else some ⟨below + 1, k⟩
  else if lowHit then some ⟨below, k⟩
  else if highHit then some ⟨below + 1, k⟩
  else none

/-- The exponent of the first digit: the largest `k` with `10 ^ k` not above `x`, searched down
from `k`. -/
def leadingExponent (x : Magnitude) : Nat → Int → Int
  | 0, k => k
  | fuel + 1, k =>
    let (num, den) := x.tenPower k
    if num ≤ x.quarters * den then k else leadingExponent x fuel (k - 1)

/-- The shortest decimal that reads back as `x`, which is not zero. -/
def shortest (x : Magnitude) : Decimal :=
  let top := x.leadingExponent 640 309
  ((List.range 17).findSome? fun n : Nat => x.onGrid (top - Int.ofNat n)).getD ⟨0, 0⟩

end Magnitude

/-- The decimal without zeros at the end of its digits. -/
def Decimal.trimmed : Nat → Decimal → Decimal
  | 0, d => d
  | fuel + 1, d =>
    if d.digits % 10 = 0 ∧ d.digits ≠ 0 then trimmed fuel ⟨d.digits / 10, d.exponent + 1⟩ else d

end RegistrySync.Number
