import RegistrySync.Json.Basic
import RegistrySync.Json.Reading

/-!
Numbers as they stand in JSON.

A numeral without point and exponent that fits 64 bits is a whole number; every other one becomes
a double. Of the digits as many are used as fit 64 bits; the decimal exponent is then applied by
multiplying with, or dividing by, the double nearest to the power of ten.
-/

namespace RegistrySync.Json

open RegistrySync.Number (Magnitude Double)

def isDigit (b : UInt8) : Bool := 48 ≤ b && b ≤ 57

def digit (b : UInt8) : Nat := b.toNat - 48

/-- The parts of a numeral. -/
structure Numeral where
  negative : Bool
  whole : List Nat
  /-- Digits behind the point, if there is one. -/
  fraction : Option (List Nat)
  /-- Sign and digits of the exponent, if there is one. -/
  exponent : Option (Bool × List Nat)

/-- A numeral breaks off: at the end of the text, or at a byte that does not belong there. -/
inductive Break where
  | atEnd
  | atByte

def breakAt : List UInt8 → Break
  | [] => .atEnd
  | _ :: _ => .atByte

/-- At least one digit, and what follows. -/
def someDigits (bs : List UInt8) : Except Break (List Nat × List UInt8) :=
  match bs.takeWhile isDigit with
  | [] => .error (breakAt bs)
  | ds => .ok (ds.map digit, bs.dropWhile isDigit)

/-- Digits in front of a point: a zero stands alone. -/
def wholeDigits (bs : List UInt8) : Except Break (List Nat × List UInt8) :=
  match bs with
  | 48 :: next :: rest => if isDigit next then .error .atByte else .ok ([0], next :: rest)
  | _ => someDigits bs

def fractionDigits (bs : List UInt8) : Except Break (Option (List Nat) × List UInt8) :=
  match bs with
  | 46 :: rest => (someDigits rest).map fun (ds, rest) => (some ds, rest)
  | _ => .ok (none, bs)

/-- The sign of an exponent, and what follows. -/
def exponentSign : List UInt8 → Bool × List UInt8
  | 43 :: rest => (false, rest)
  | 45 :: rest => (true, rest)
  | bs => (false, bs)

def exponentDigits (bs : List UInt8) :
    Except Break (Option (Bool × List Nat) × List UInt8) :=
  match bs with
  | e :: rest =>
    if e = 101 ∨ e = 69 then
      let (negative, rest) := exponentSign rest
      (someDigits rest).map fun (ds, rest) => (some (negative, ds), rest)
    else .ok (none, bs)
  | [] => .ok (none, [])

/-- The numeral at the start of a text, behind its sign, and what follows it. -/
def scanNumeral (negative : Bool) (bs : List UInt8) : Except Break (Numeral × List UInt8) := do
  let (whole, rest) ← wholeDigits bs
  let (fraction, rest) ← fractionDigits rest
  let (exponent, rest) ← exponentDigits rest
  return (⟨negative, whole, fraction, exponent⟩, rest)

namespace Numeral

/-- Significands stay below this. -/
def wordLimit : Nat := Nat.pow 2 64

/-- Exponents beyond this are not told apart. -/
def exponentLimit : Nat := Nat.pow 2 31

/-- Digits of the significand, and the power of ten it is scaled by. -/
structure Scaled where
  significand : Nat
  exponent : Int

/-- Takes digits while they fit; each of the others counts `step`. -/
def absorb (s : Scaled) (taken skipped : Int) : List Nat → Scaled
  | [] => s
  | d :: ds =>
    if s.significand * 10 + d < wordLimit then
      absorb ⟨s.significand * 10 + d, s.exponent + taken⟩ taken skipped ds
    else ⟨s.significand, s.exponent + skipped * ((d :: ds).length : Int)⟩

def natural (ds : List Nat) : Nat := ds.foldl (fun n d => n * 10 + d) 0

/-- The whole number a numeral stands for, if it is one. -/
def whole? (x : Numeral) : Option Number :=
  let n := natural x.whole
  if x.fraction.isSome || x.exponent.isSome then none
  else if !x.negative then if n < wordLimit then some (.natural n) else none
  else if 0 < n ∧ n ≤ Nat.pow 2 63 then some (.negative n) else none

/-- The largest power of ten that is a double. -/
def topPower : Nat := 308

def power (n : Nat) : Magnitude := (Magnitude.ofRatio (Nat.pow 10 n) 1).getD .zero

/-- Applies a decimal exponent, three hundred and eight places at a time. -/
def scale : Nat → Magnitude → Int → Except Fault Magnitude
  | 0, _, _ => .ok .zero
  | fuel + 1, x, e =>
    if e.natAbs ≤ topPower then
      match if 0 ≤ e then x.mul (power e.natAbs) else x.div (power e.natAbs) with
      | some y => .ok y
      | none => .error .numberOutOfRange
    else if x.isZero then .ok x
    else if 0 ≤ e then .error .numberOutOfRange
    else scale fuel ((x.div (power topPower)).getD .zero) (e + topPower)

def float (x : Numeral) : Except Fault Double := do
  let s := absorb ⟨0, 0⟩ 0 1 x.whole
  let s := absorb s (-1) 0 (x.fraction.getD [])
  let (negative, ds) := x.exponent.getD (false, [])
  let e := natural ds
  if exponentLimit ≤ e then
    if s.significand ≠ 0 ∧ ¬ negative then throw .numberOutOfRange
    return .finite x.negative .zero
  let e : Int := if negative then s.exponent - e else s.exponent + e
  let m := (Magnitude.ofRatio s.significand 1).getD .zero
  return .finite x.negative (← scale 4 m e)

def number (x : Numeral) : Except Fault Number :=
  match x.whole? with
  | some n => .ok n
  | none => x.float.map .float

end Numeral

/-- The number at the start of a text, and what follows it. -/
def readNumber (bs : List UInt8) : Reading Number × List UInt8 :=
  let (negative, digits) := match bs with
    | 45 :: rest => (true, rest)
    | _ => (false, bs)
  match scanNumeral negative digits with
  | .ok (x, rest) => (⟨x.number, none⟩, rest)
  | .error .atEnd => (⟨.error .endInValue, some .invalidNumber⟩, [])
  | .error .atByte => (⟨.error .invalidNumber, some .invalidNumber⟩, [])

/-! A numeral takes at least one byte. -/

theorem length_dropWhile_le {α : Type} (p : α → Bool) (l : List α) :
    (l.dropWhile p).length ≤ l.length := (List.dropWhile_sublist p).length_le

theorem length_someDigits {bs : List UInt8} {p : List Nat × List UInt8}
    (h : someDigits bs = .ok p) : p.2.length < bs.length := by
  unfold someDigits at h
  cases bs with
  | nil => simp at h
  | cons b bs =>
    by_cases hb : isDigit b
    · simp only [List.takeWhile_cons, hb, if_true, List.dropWhile_cons, Except.ok.injEq] at h
      rw [← h]
      exact Nat.lt_succ_of_le (length_dropWhile_le _ _)
    · simp [hb] at h

theorem length_wholeDigits {bs : List UInt8} {p : List Nat × List UInt8}
    (h : wholeDigits bs = .ok p) : p.2.length < bs.length := by
  unfold wholeDigits at h
  split at h
  · split at h
    · cases h
    · cases h
      simp
  · exact length_someDigits h

theorem length_fractionDigits {bs : List UInt8} {p : Option (List Nat) × List UInt8}
    (h : fractionDigits bs = .ok p) : p.2.length ≤ bs.length := by
  unfold fractionDigits at h
  split at h
  · rename_i r
    cases hr : someDigits r with
    | error e => simp [hr, Except.map] at h
    | ok p =>
      have := length_someDigits hr
      simp only [hr, Except.map, Except.ok.injEq] at h
      rw [← h]
      simp only [List.length_cons]
      omega
  · cases h
    exact Nat.le_refl _

theorem length_exponentSign (bs : List UInt8) : (exponentSign bs).2.length ≤ bs.length := by
  unfold exponentSign
  split <;> simp

theorem length_exponentDigits {bs : List UInt8} {p : Option (Bool × List Nat) × List UInt8}
    (h : exponentDigits bs = .ok p) : p.2.length ≤ bs.length := by
  unfold exponentDigits at h
  split at h
  · rename_i e r
    split at h
    · cases hr : someDigits (exponentSign r).2 with
      | error e => simp [hr, Except.map] at h
      | ok p =>
        have := length_someDigits hr
        have := length_exponentSign r
        simp only [hr, Except.map, Except.ok.injEq] at h
        rw [← h]
        simp only [List.length_cons]
        omega
    · cases h
      exact Nat.le_refl _
  · cases h
    exact Nat.le_refl _

theorem length_scanNumeral {negative : Bool} {bs : List UInt8} {p : Numeral × List UInt8}
    (h : scanNumeral negative bs = .ok p) : p.2.length < bs.length := by
  unfold scanNumeral at h
  cases h₁ : wholeDigits bs with
  | error e => simp [h₁, bind, Except.bind] at h
  | ok a =>
    cases h₂ : fractionDigits a.2 with
    | error e => simp [h₁, h₂, bind, Except.bind] at h
    | ok b =>
      cases h₃ : exponentDigits b.2 with
      | error e => simp [h₁, h₂, h₃, bind, Except.bind] at h
      | ok c =>
        have := length_wholeDigits h₁
        have := length_fractionDigits h₂
        have := length_exponentDigits h₃
        simp only [h₁, h₂, h₃, bind, Except.bind, pure, Except.pure,
          Except.ok.injEq] at h
        rw [← h]
        show c.2.length < bs.length
        omega

theorem length_readNumber (b : UInt8) (bs : List UInt8) :
    (readNumber (b :: bs)).2.length ≤ bs.length := by
  have key : ∀ negative ds, ds.length ≤ (b :: bs).length →
      ∀ p, scanNumeral negative ds = .ok p → p.2.length ≤ bs.length := by
    intro negative ds hds p h
    have := length_scanNumeral h
    simp only [List.length_cons] at hds
    omega
  unfold readNumber
  split
  rename_i negative ds hds
  have hle : ds.length ≤ (b :: bs).length := by
    split at hds
    · rename_i r he
      cases hds
      simp [he]
    · cases hds
      exact Nat.le_refl _
  split
  · rename_i h
    exact key _ _ hle _ h
  · simp
  · simp

end RegistrySync.Json
