import RegistrySync.Schema.Mismatch
import RegistrySync.Text.Cut

/-!
JSON values and their compact text.

A whole number is kept apart from a number written with a point or an exponent, and from one
beyond 64 bits.
-/

namespace RegistrySync

inductive Json.Number where
  | natural (n : Nat)
  | negative (n : Nat)
  | float (x : Number.Double)
  deriving DecidableEq, Repr

inductive Json where
  | null
  | flag (b : Bool)
  | number (n : Json.Number)
  | text (s : String)
  | list (items : List Json)
  /-- Members, each name once. -/
  | record (members : List (String × Json))

namespace Json

def Number.found : Number → Schema.Found
  | .natural n => .natural n
  | .negative n => .negative n
  | .float x => .float x

def Number.print : Number → String
  | .natural n => toString n
  | .negative n => "-" ++ toString n
  | .float x => RegistrySync.Number.scientific.text x

def found : Json → Schema.Found
  | .null => .null
  | .flag b => .flag b
  | .number n => n.found
  | .text s => .text s
  | .list _ => .list
  | .record _ => .record

/-- The member of a name, if the value is a record that has one. -/
def get? (name : String) : Json → Option Json
  | .record members => (members.find? (·.1 == name)).map (·.2)
  | _ => none

def asText? : Json → Option String
  | .text s => some s
  | _ => none

/-- Puts a member in its place; of two with one name the later one stays. -/
def insertMember (name : String) (value : Json) : List (String × Json) → List (String × Json)
  | [] => [(name, value)]
  | (n, v) :: rest =>
    if name < n then (name, value) :: (n, v) :: rest
    else if name = n then (name, value) :: rest
    else (n, v) :: insertMember name value rest

/-- The record of members given in any order; its members stand in the order of their names. -/
def ofMembers (members : List (String × Json)) : Json :=
  .record (members.foldl (fun ms m => insertMember m.1 m.2 ms) [])

/-! Text. -/

def hexDigit (n : Nat) : Char := Nat.digitChar n

/-- The escape of a character inside quotation marks. -/
def escape (c : Char) : List Char :=
  match c with
  | '"' => ['\\', '"']
  | '\\' => ['\\', '\\']
  | '\x08' => ['\\', 'b']
  | '\t' => ['\\', 't']
  | '\n' => ['\\', 'n']
  | '\x0c' => ['\\', 'f']
  | '\r' => ['\\', 'r']
  | c =>
    if c.toNat < 0x20 then
      ['\\', 'u', '0', '0', hexDigit (c.toNat / 16), hexDigit (c.toNat % 16)]
    else [c]

def printText (s : String) : String := String.ofList ('"' :: s.toList.flatMap escape ++ ['"'])

mutual

def print : Json → String
  | .null => "null"
  | .flag b => if b then "true" else "false"
  | .number n => n.print
  | .text s => printText s
  | .list items => "[" ++ Text.joinWith "," (printItems items) ++ "]"
  | .record members => "\x7b" ++ Text.joinWith "," (printMembers members) ++ "\x7d"

def printItems : List Json → List String
  | [] => []
  | j :: rest => j.print :: printItems rest

def printMembers : List (String × Json) → List String
  | [] => []
  | (name, j) :: rest => (printText name ++ ":" ++ j.print) :: printMembers rest

end

end Json

end RegistrySync
