/-!
Doubles as exact numbers.

A finite double is a sign and a significand below 2 ^ 53 times a power of two. `ofRatio` rounds a
quotient of naturals to the nearest double, a tie to the even significand, and gives none where
that overflows. Products and quotients are formed exactly and rounded once.
-/

namespace RegistrySync.Number

/-- The finite double `significand · 2 ^ exponent`, without sign. -/
structure Magnitude where
  significand : Nat
  exponent : Int
  deriving DecidableEq, Repr

inductive Double where
  | finite (negative : Bool) (magnitude : Magnitude)
  | infinite (negative : Bool)
  | nan
  deriving DecidableEq, Repr

namespace Magnitude

/-- Bits of a full significand. -/
def precision : Nat := 53

/-- The exponent of the smallest doubles. -/
def minExponent : Int := -1074

/-- The exponent of the largest doubles. -/
def maxExponent : Int := 971

def zero : Magnitude := ⟨0, minExponent⟩

/-- The natural nearest to `num / den`, a tie to the even one. -/
def roundDiv (num den : Nat) : Nat :=
  let q := num / den
  let twice := 2 * (num % den)
  if twice < den then q else if den < twice then q + 1 else q + q % 2

/-- `num / den` in units of `2 ^ exponent`, as a quotient. -/
def inUnits (num den : Nat) (exponent : Int) : Nat × Nat :=
  if exponent < 0 then (num * Nat.pow 2 exponent.natAbs, den)
  else (num, den * Nat.pow 2 exponent.natAbs)

/-- The exponent at which `num / den` fills the precision, or one more than that. -/
def exponentFor (num den : Nat) : Int :=
  max minExponent ((num.log2 : Int) - (den.log2 : Int) - precision)

/-- The nearest double; none if that is beyond the largest one. -/
def ofRatio (num den : Nat) : Option Magnitude :=
  let low := exponentFor num den
  let units := inUnits num den low
  let exponent := if units.1 / units.2 < Nat.pow 2 precision then low else low + 1
  let units := inUnits num den exponent
  let n := roundDiv units.1 units.2
  let (n, exponent) :=
    if n = Nat.pow 2 precision then (Nat.pow 2 (precision - 1), exponent + 1) else (n, exponent)
  if num = 0 then some zero else if maxExponent < exponent then none else some ⟨n, exponent⟩

/-- The value as a quotient of naturals. -/
def ratio (x : Magnitude) : Nat × Nat :=
  if x.exponent < 0 then (x.significand, Nat.pow 2 x.exponent.natAbs)
  else (x.significand * Nat.pow 2 x.exponent.natAbs, 1)

def mul (x y : Magnitude) : Option Magnitude :=
  ofRatio (x.ratio.1 * y.ratio.1) (x.ratio.2 * y.ratio.2)

/-- The quotient by a double that is not zero. -/
def div (x y : Magnitude) : Option Magnitude :=
  ofRatio (x.ratio.1 * y.ratio.2) (x.ratio.2 * y.ratio.1)

def isZero (x : Magnitude) : Bool := x.significand == 0

end Magnitude

/-- The double nearest to `digits · 10 ^ exponent`; none if that overflows. Far outside the range
of doubles the power is not formed. -/
def Magnitude.ofDecimal (digits : Nat) (exponent : Int) : Option Magnitude :=
  let size : Int := exponent + ((Nat.toDigits 10 digits).length : Int)
  if digits = 0 ∨ size < -400 then some zero
  else if 400 < size then none
  else if exponent < 0 then ofRatio digits (Nat.pow 10 exponent.natAbs)
  else ofRatio (digits * Nat.pow 10 exponent.natAbs) 1

example : Magnitude.ofRatio 1 10 = some ⟨7205759403792794, -56⟩ := by decide +kernel
example : Magnitude.ofRatio 5 1 = some ⟨5629499534213120, -50⟩ := by decide +kernel

end RegistrySync.Number
