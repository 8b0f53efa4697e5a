import RegistrySync.Text.Blank
import RegistrySync.Url.International
import RegistrySync.Url.Ip

/-!
Hosts of addresses.

A host stands in brackets if it is an IPv6 address; otherwise its escapes are resolved, it is
brought to its one spelling in ASCII, and it is an IPv4 address if its last part is a number.
-/

namespace RegistrySync.Url

open Text

/-- Characters that a host name never has. -/
def isForbidden (c : Char) : Bool :=
  c.toNat ≤ 0x20 || c.toNat == 0x7F ||
    ['#', '/', ':', '<', '>', '?', '@', '[', '\\', ']', '^', '|', '%'].contains c

/-- A host name as it is compared. -/
def readName (cs : List Char) : Except Fault (List Char) :=
  match Utf8.decode (unescape cs) with
  | .error _ => .error .badName
  | .ok s => do
    let name ← asciiName s.toList
    if name.any isForbidden then throw .badName
    return name

/-- What stands between brackets. -/
def cutBrackets : List Char → Option (List Char)
  | '[' :: rest => if rest.getLast? = some ']' then some rest.dropLast else none
  | _ => none

/-- The host of a web address. -/
def readHost (cs : List Char) : Except Fault String :=
  match cs with
  | [] => .error .emptyHost
  | '[' :: _ =>
    match cutBrackets cs with
    | some inner => ipv6 inner
    | none => .error .badIpv6
  | _ => do
    let name ← readName cs
    if name.isEmpty then throw .emptyHost
    if endsInNumber name then ipv4 name else return String.ofList name

/-- Characters that no host has, whatever its scheme means by it. -/
def isForbiddenAnywhere (c : Char) : Bool :=
  ['\x00', '\t', '\n', '\r', ' ', '#', '/', ':', '<', '>', '?', '@', '[', '\\', ']', '^', '|'].contains
    c

/-- What the host of an address with an unknown scheme has to fulfil. -/
def checkOpaqueHost (cs : List Char) : Except Fault Unit :=
  match cs with
  | '[' :: _ =>
    match cutBrackets cs with
    | some inner => (ipv6 inner).map fun _ => ()
    | none => .error .badIpv6
  | _ => if cs.any isForbiddenAnywhere then .error .badCharacter else .ok ()

end RegistrySync.Url
