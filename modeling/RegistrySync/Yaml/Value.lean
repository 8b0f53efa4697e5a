import RegistrySync.Schema.Mismatch
import RegistrySync.Yaml.Node

/-!
What scalars stand for.

Without a tag that says otherwise the text of a plain scalar decides: it may be the empty value, a
flag or a number. Whole numbers may be written to the bases two, eight and sixteen; digits behind a
leading zero are text. Quoted scalars are text.
-/

namespace RegistrySync.Yaml

open RegistrySync.Number (Magnitude Double)
open RegistrySync.Schema (Found Mismatch)

/-- The texts of the empty value. -/
def nullTexts : List String := ["null", "Null", "NULL", "~"]

def flag? (text : String) : Option Bool :=
  if text ∈ ["true", "True", "TRUE"] then some true
  else if text ∈ ["false", "False", "FALSE"] then some false
  else none

namespace Numeral

/-- The number that one or more digits stand for. -/
def digits? (base : Nat) (cs : List Char) : Option Nat :=
  if cs.isEmpty then none else Text.inRadix base cs

def isSign (c : Char) : Bool := c == '+' || c == '-'

/-- The text without a plus sign at its start. -/
def withoutPlus : List Char → List Char
  | '+' :: cs => cs
  | cs => cs

/-- Digits behind a leading zero. -/
def isPadded (cs : List Char) : Bool :=
  match if cs.head?.any isSign then cs.drop 1 else cs with
  | '0' :: d :: ds => (d :: ds).all Char.isDigit
  | _ => false

/-- Digits that may be marked as being to another base than ten. -/
def based? : List Char → Option Nat
  | '0' :: 'x' :: cs => digits? 16 cs
  | '0' :: 'o' :: cs => digits? 8 cs
  | '0' :: 'b' :: cs => digits? 2 cs
  | cs => if isPadded cs then none else digits? 10 cs

/-- A whole number that is not negative. -/
def natural? (cs : List Char) : Option Nat := based? (withoutPlus cs)

/-- The natural below zero that is meant. -/
def negative? : List Char → Option Nat
  | '-' :: cs => based? cs
  | _ => none

/-- Sign and digits of an exponent; a text without one counts as the exponent zero. -/
def exponent? : List Char → Option Int
  | [] => some 0
  | e :: cs =>
    if e == 'e' || e == 'E' then
      match cs with
      | '-' :: cs => (digits? 10 cs).map fun n => -(n : Int)
      | cs => (digits? 10 (withoutPlus cs)).map fun n => (n : Int)
    else none

/-- A decimal without sign: digits with a point anywhere and an exponent. -/
def decimal? (cs : List Char) : Option Magnitude := do
  let whole := cs.takeWhile Char.isDigit
  let rest := cs.dropWhile Char.isDigit
  let (fraction, rest) := match rest with
    | '.' :: rest => (rest.takeWhile Char.isDigit, rest.dropWhile Char.isDigit)
    | rest => ([], rest)
  let n ← digits? 10 (whole ++ fraction)
  let e ← exponent? rest
  Magnitude.ofDecimal n (e - (fraction.length : Int))

/-- A double. One that is too large is none. -/
def double? (text : String) : Option Double :=
  if text ∈ [".nan", ".NaN", ".NAN"] then some .nan
  else
    let plus := text.startsWith "+"
    let body := withoutPlus text.toList
    let negative := !plus && body.head? == some '-'
    let body := if negative then body.drop 1 else body
    if String.ofList body ∈ [".inf", ".Inf", ".INF"] then some (.infinite negative)
    else (decimal? body).map (.finite negative)

end Numeral

/-- The whole number that a text stands for. -/
def whole? (text : String) : Option Found :=
  match Numeral.natural? text.toList, Numeral.negative? text.toList with
  | some n, _ =>
    if n < Nat.pow 2 64 then some (.natural n) else if n < Nat.pow 2 128 then some (.wide n) else none
  | none, some 0 => some (.natural 0)
  | none, some n =>
    if n ≤ Nat.pow 2 63 then some (.negative n)
    else if n ≤ Nat.pow 2 127 then some (.wide (-(n : Int)))
    else none
  | none, none => none

/-- What a plain text without a tag stands for. -/
def found (text : String) : Found :=
  if text.isEmpty || text ∈ nullTexts then .null
  else match flag? text, whole? text with
    | some b, _ => .flag b
    | none, some n => n
    | none, none =>
      match Numeral.double? text with
      | some x => if Numeral.isPadded text.toList then .text text else .float x
      | none => .text text

/-! Tags with a meaning. -/

def coreTag (name : String) : String := "tag:yaml.org,2002:" ++ name

namespace Scalar

/-- The text where `found` stands for it; else that it is no `expected`. -/
def tagged (s : Scalar) (found : Option Found) (name expected : String) : Mismatch :=
  match found with
  | some f => .type f expected
  | none => .value (.text s.text) name

/-- Why a scalar does not stand where something else is expected. -/
def unfit (s : Scalar) (expected : String) : Mismatch :=
  let untagged := if s.style = .plain then found s.text else .text s.text
  match s.tag with
  | none => .type untagged expected
  | some t =>
    if t = coreTag "bool" then s.tagged ((flag? s.text).map .flag) "a boolean" expected
    else if t = coreTag "int" then s.tagged (whole? s.text) "an integer" expected
    else if t = coreTag "float" then
      s.tagged ((Numeral.double? s.text).map .float) "a float" expected
    else if t = coreTag "null" then
      s.tagged (if s.text ∈ nullTexts then some .null else none) "null" expected
    else .type (if t.startsWith "!" then untagged else .text s.text) expected

/-- The scalar may be read as a value of the type with this tag: it is plain, or a literal block
that is tagged so. -/
def isReadable (s : Scalar) (name : String) : Bool :=
  s.style = .plain || (s.style = .literal && s.tag = some (coreTag name))

end Scalar

end RegistrySync.Yaml
