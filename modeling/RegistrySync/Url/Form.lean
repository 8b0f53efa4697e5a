import RegistrySync.Text.Cut
import RegistrySync.Url.Percent

/-!
Pairs of names and values in the query of an address.

They are written as in a form: pairs are set apart by an ampersand, name and value by an equals
sign, a space is a plus sign, and all bytes but a few are escaped. `readPairs` reads them back.
-/

namespace RegistrySync.Url

open Text

/-- Bytes that stand for themselves in a form. -/
def inForm (b : UInt8) : Bool :=
  (48 ≤ b && b ≤ 57) || (65 ≤ b && b ≤ 90) || (97 ≤ b && b ≤ 122) ||
    b == 42 || b == 45 || b == 46 || b == 95

/-- A name or value as it is written. -/
def formText (s : String) : List Char :=
  (Utf8.encode s).flatMap fun b =>
    if inForm b then [Char.ofNat b.toNat] else if b == 32 then ['+'] else percentByte b

/-- Pairs as they are written. -/
def formPairs : List (String × String) → List Char
  | [] => []
  | [(name, value)] => formText name ++ '=' :: formText value
  | (name, value) :: rest => formText name ++ '=' :: formText value ++ '&' :: formPairs rest

/-- The name or value that is written. -/
def readText (cs : List Char) : String :=
  Utf8.decodeLossy (unescape (cs.map fun c => if c = '+' then ' ' else c))

/-- One pair; without an equals sign the value is empty. -/
def readPair (cs : List Char) : String × String :=
  match cutFirst '=' cs with
  | some (name, value) => (readText name, readText value)
  | none => (readText cs, "")

/-- The pairs that are written; nothing between two ampersands is no pair. -/
def readPairs (cs : List Char) : List (String × String) :=
  ((pieces '&' cs).filter (!·.isEmpty)).map readPair

example : readPairs (formPairs [("repo", "a b/c"), ("tag", "1+ü")]) =
    [("repo", "a b/c"), ("tag", "1+ü")] := by decide +kernel

end RegistrySync.Url
