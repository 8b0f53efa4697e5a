import RegistrySync.Text.Digits
import RegistrySync.Text.Utf8

/-!
Percent encoding.

A byte is written as a percent sign and two hexadecimal digits wherever it could be taken for
something else. What that is depends on the part of an address; in every part it includes
controls and all bytes outside ASCII.
-/

namespace RegistrySync.Url

open Text

def upperHex (n : Nat) : Char := (Nat.digitChar n).toUpper

def percentByte (b : UInt8) : List Char := ['%', upperHex (b.toNat / 16), upperHex (b.toNat % 16)]

/-- Controls and everything outside ASCII. -/
def isForeign (c : Char) : Bool := c.toNat < 0x20 || 0x7F ≤ c.toNat

/-- Characters of a fragment that are escaped. -/
def inFragment (c : Char) : Bool := isForeign c || [' ', '"', '<', '>', '\x60'].contains c

/-- Characters of a query that are escaped. -/
def inQuery (c : Char) : Bool := isForeign c || [' ', '"', '#', '<', '>', '\''].contains c

/-- Characters of a path that are escaped. -/
def inPath (c : Char) : Bool :=
  isForeign c || [' ', '"', '#', '<', '>', '\x60', '?', '\x7b', '\x7d'].contains c

/-- Characters of user names and passwords that are escaped. -/
def inUserInfo (c : Char) : Bool :=
  inPath c || ['/', ':', ';', '=', '@', '[', '\\', ']', '^', '|'].contains c

/-- Escapes the characters that `p` picks out. -/
def escape (p : Char → Bool) (cs : List Char) : List Char :=
  cs.flatMap fun c => if p c then (String.utf8EncodeChar c).flatMap percentByte else [c]

/-- The bytes of a text in which escapes stand for theirs. -/
def unescape : List Char → List UInt8
  | [] => []
  | '%' :: a :: b :: rest =>
    match hexValue? a, hexValue? b with
    | some x, some y => UInt8.ofNat (x * 16 + y) :: unescape rest
    | _, _ => 37 :: unescape (a :: b :: rest)
  | c :: rest => String.utf8EncodeChar c ++ unescape rest

end RegistrySync.Url
