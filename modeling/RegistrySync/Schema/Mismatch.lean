import RegistrySync.Number.Notation
import RegistrySync.Text.Quoted

/-!
Why a value does not fit the place it stands in, and how that reads.
-/

namespace RegistrySync.Schema

/-- What stands where something else is expected. -/
inductive Found where
  | null
  | flag (b : Bool)
  | natural (n : Nat)
  | negative (n : Nat)
  /-- A whole number beyond 64 bits. -/
  | wide (n : Int)
  | float (x : Number.Double)
  | text (s : String)
  | list
  | record
  deriving DecidableEq, Repr

/-- How a format words what it found. -/
structure Wording where
  /-- The name of the empty value. -/
  null : String
  numbers : Number.Notation

def Found.describe (w : Wording) : Found → String
  | .null => w.null
  | .flag b => "boolean `" ++ (if b then "true" else "false") ++ "`"
  | .natural n => "integer `" ++ toString n ++ "`"
  | .negative n => "integer `-" ++ toString n ++ "`"
  | .wide n =>
    "integer `" ++ toString n ++ (if n < 0 then "` as i128" else "` as u128")
  | .float x => "floating point `" ++ w.numbers.text x ++ "`"
  | .text s => "string " ++ Text.Quoted.encode s
  | .list => "sequence"
  | .record => "map"

inductive Mismatch where
  /-- A value of another type. -/
  | type (found : Found) (expected : String)
  /-- A value of the right type, out of bounds. -/
  | value (found : Found) (expected : String)
  /-- A list that is too short or too long for its place. -/
  | length (size : Nat) (expected : String)
  | missing (field : String)
  | duplicate (field : String)
  deriving DecidableEq, Repr

def Mismatch.message (w : Wording) : Mismatch → String
  | .type found expected => "invalid type: " ++ found.describe w ++ ", expected " ++ expected
  | .value found expected => "invalid value: " ++ found.describe w ++ ", expected " ++ expected
  | .length size expected => "invalid length " ++ toString size ++ ", expected " ++ expected
  | .missing field => "missing field `" ++ field ++ "`"
  | .duplicate field => "duplicate field `" ++ field ++ "`"

end RegistrySync.Schema
