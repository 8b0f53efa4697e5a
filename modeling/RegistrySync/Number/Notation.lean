import RegistrySync.Number.Shortest

/-!
How doubles are written.

Both notations write the shortest digits that read back and always show a decimal point or an
exponent. The positional one never uses an exponent; the scientific one does outside
`10 ^ -5` to `10 ^ 16`, with a sign and at least two exponent digits.
-/

namespace RegistrySync.Number

structure Notation where
  /-- Exponents of the first digit that are written without one, from this on, -/
  lowest : Option Int
  /-- and below this. -/
  highest : Option Int
  deriving DecidableEq, Repr

/-- Never an exponent. -/
def positional : Notation := ⟨none, none⟩

/-- An exponent outside `10 ^ -5` to `10 ^ 16`. -/
def scientific : Notation := ⟨some (-5), some 16⟩

namespace Notation

def isPlain (f : Notation) (exponent : Int) : Bool :=
  f.lowest.all (· ≤ exponent) && f.highest.all (exponent < ·)

def zeros (n : Nat) : List Char := List.replicate n '0'

/-- Digits with a point, none of them moved by an exponent. -/
def plainText (digits : List Char) (exponent : Int) : List Char :=
  let point := (digits.length : Int) + exponent
  if 0 ≤ exponent then digits ++ zeros exponent.toNat ++ ['.', '0']
  else if 0 < point then digits.take point.toNat ++ '.' :: digits.drop point.toNat
  else '0' :: '.' :: zeros point.natAbs ++ digits

def exponentText (exponent : Int) : List Char :=
  let digits := Nat.toDigits 10 exponent.natAbs
  'e' :: (if exponent < 0 then '-' else '+') :: zeros (2 - digits.length) ++ digits

def scaledText (digits : List Char) (leading : Int) : List Char :=
  match digits with
  | [] => []
  | [d] => d :: exponentText leading
  | d :: ds => d :: '.' :: ds ++ exponentText leading

def magnitudeText (f : Notation) (x : Magnitude) : List Char :=
  if x.isZero then ['0', '.', '0']
  else
    let d := Decimal.trimmed 17 x.shortest
    let digits := Nat.toDigits 10 d.digits
    let leading := d.exponent + (digits.length : Int) - 1
    if f.isPlain leading then plainText digits d.exponent else scaledText digits leading

def text (f : Notation) : Double → String
  | .finite negative x =>
    String.ofList ((if negative then ['-'] else []) ++ f.magnitudeText x)
  | .infinite negative => if negative then "-inf" else "inf"
  | .nan => "NaN"

end Notation

end RegistrySync.Number
