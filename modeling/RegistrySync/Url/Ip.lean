import RegistrySync.Text.Cut
import RegistrySync.Url.Fault
import RegistrySync.Url.Percent

/-!
Numeric hosts.

An IPv4 address has up to four numbers, decimal, octal or hexadecimal, the last of which fills
what the others leave. An IPv6 address has eight pieces, one run of which may be left out and the
last two of which may be written as an IPv4 address; it is shown with its longest run of zeros
left out.
-/

namespace RegistrySync.Url

open Text

/-! IPv4. -/

/-- One number of an IPv4 address. -/
def ipv4Number (cs : List Char) : Option Nat :=
  match cs with
  | [] => none
  | '0' :: 'x' :: rest => inRadix 16 rest
  | '0' :: 'X' :: rest => inRadix 16 rest
  | '0' :: d :: rest => inRadix 8 (d :: rest)
  | cs => inRadix 10 cs

/-- The parts between dots, without an empty last one. -/
def ipv4Parts (cs : List Char) : List (List Char) :=
  let parts := pieces '.' cs
  if parts.getLast? = some [] then parts.dropLast else parts

/-- Whether the last part of a name is a number, so that the name can only be an address. -/
def endsInNumber (cs : List Char) : Bool :=
  match (ipv4Parts cs).getLast? with
  | none => false
  | some last => (!last.isEmpty && last.all Char.isDigit) || (ipv4Number last).isSome

/-- Numbers of an address as one: each but the last is a byte. -/
def ipv4Value : List Nat → Nat → Option Nat
  | [], _ => none
  | [last], bits => if last < Nat.pow 2 bits then some last else none
  | n :: rest, bits => do
    guard (n < 256)
    let value ← ipv4Value rest (bits - 8)
    return n * Nat.pow 2 (bits - 8) + value

def ipv4Text (value : Nat) : String :=
  toString (value / 16777216) ++ "." ++ toString (value / 65536 % 256) ++ "." ++
    toString (value / 256 % 256) ++ "." ++ toString (value % 256)

def ipv4 (cs : List Char) : Except Fault String :=
  let parts := ipv4Parts cs
  if 4 < parts.length then .error .badIpv4
  else match (parts.mapM ipv4Number).bind fun ns => ipv4Value ns 32 with
    | some value => .ok (ipv4Text value)
    | none => .error .badIpv4

/-! IPv6. -/

/-- A byte in decimal digits, without zeros in front. -/
def decimalByte (cs : List Char) : Option Nat :=
  match cs with
  | [] => none
  | '0' :: _ :: _ => none
  | cs => do
    let n ← inRadix 10 cs
    guard (n < 256)
    return n

/-- The two pieces of an IPv4 address in its plain form. -/
def embeddedIpv4 (cs : List Char) : Option (List Nat) := do
  match ← (pieces '.' cs).mapM decimalByte with
  | [a, b, c, d] => return [a * 256 + b, c * 256 + d]
  | _ => none

/-- One piece of an IPv6 address. -/
def ipv6Piece (cs : List Char) : Option Nat := do
  guard (!cs.isEmpty && cs.length ≤ 4)
  inRadix 16 cs

/-- Pieces between colons; the last one may be an IPv4 address. -/
def ipv6Pieces : List (List Char) → Option (List Nat)
  | [] => some []
  | [last] =>
    if last.contains '.' then embeddedIpv4 last else (ipv6Piece last).map fun n => [n]
  | p :: ps => do
    let n ← ipv6Piece p
    let ns ← ipv6Pieces ps
    return n :: ns

/-- What stands before and after the first pair of colons. -/
def cutGap : List Char → Option (List Char × List Char)
  | [] => none
  | ':' :: ':' :: rest => some ([], rest)
  | c :: rest => (cutGap rest).map fun (a, b) => (c :: a, b)

/-- The pieces of one side of a gap, on which an IPv4 address may stand only at the end. -/
def ipv6Side (cs : List Char) (isLast : Bool) : Option (List Nat) :=
  if cs.isEmpty then some []
  else if !isLast && cs.contains '.' then none
  else ipv6Pieces (pieces ':' cs)

/-- The eight pieces of an address. A gap stands for at least one piece. -/
def ipv6Value (cs : List Char) : Option (List Nat) := do
  match cutGap cs with
  | some (a, b) =>
    let a ← ipv6Side a false
    let b ← ipv6Side b true
    guard (a.length + b.length < 8)
    return a ++ List.replicate (8 - a.length - b.length) 0 ++ b
  | none =>
    let a ← ipv6Side cs true
    guard (a.length = 8)
    return a

def zeroRun (ns : List Nat) : Nat := (ns.takeWhile (· == 0)).length

/-- Place and length of the first longest run of zeros, from place `i` on. -/
def longestZeros : Nat → List Nat → Nat × Nat
  | _, [] => (0, 0)
  | i, n :: ns =>
    let here := zeroRun (n :: ns)
    let (place, size) := longestZeros (i + 1) ns
    if size ≤ here then (i, here) else (place, size)

def hexPieces (ns : List Nat) : String :=
  joinWith ":" (ns.map fun n => String.ofList (Nat.toDigits 16 n))

def ipv6Text (ns : List Nat) : String :=
  let (place, size) := longestZeros 0 ns
  if size < 2 then "[" ++ hexPieces ns ++ "]"
  else "[" ++ hexPieces (ns.take place) ++ "::" ++ hexPieces (ns.drop (place + size)) ++ "]"

def ipv6 (cs : List Char) : Except Fault String :=
  match ipv6Value cs with
  | some ns => .ok (ipv6Text ns)
  | none => .error .badIpv6

example : (ipv4 "0x7f.1".toList).toOption = some "127.0.0.1" := by decide +kernel
example : (ipv6 "1:0:0:2::".toList).toOption = some "[1:0:0:2::]" := by decide +kernel

end RegistrySync.Url
