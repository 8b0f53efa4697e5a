/-!
Base64 with padding, in two alphabets.

Three bytes are written as four symbols. The last group may be short: one byte takes two symbols
and two padding signs, two bytes take three symbols and one. Reading accepts exactly what writing
produces and otherwise names the first offence: a byte at the end of a text that is one byte too
long, then whole groups in order, then the last group.
-/

namespace RegistrySync.Base64

/-- An alphabet is told by its last two symbols; letters and digits are the same in all. -/
structure Alphabet where
  symbol62 : UInt8
  symbol63 : UInt8
  deriving DecidableEq, Repr

/-- `+` and `/`. -/
def standard : Alphabet := ⟨43, 47⟩

/-- `-` and `_`, which need no escape in addresses. -/
def urlSafe : Alphabet := ⟨45, 95⟩

/-- The padding sign, `=`. -/
def pad : UInt8 := 61

namespace Alphabet

/-- The symbol of a six-bit value. -/
def symbol (a : Alphabet) (n : Nat) : UInt8 :=
  if n < 26 then UInt8.ofNat (65 + n)
  else if n < 52 then UInt8.ofNat (97 + (n - 26))
  else if n < 62 then UInt8.ofNat (48 + (n - 52))
  else if n = 62 then a.symbol62 else a.symbol63

/-- The six-bit value of a symbol. -/
def value? (a : Alphabet) (b : UInt8) : Option Nat :=
  if 65 ≤ b ∧ b ≤ 90 then some (b.toNat - 65)
  else if 97 ≤ b ∧ b ≤ 122 then some (b.toNat - 97 + 26)
  else if 48 ≤ b ∧ b ≤ 57 then some (b.toNat - 48 + 52)
  else if b = a.symbol62 then some 62
  else if b = a.symbol63 then some 63
  else none

def isSymbol (a : Alphabet) (b : UInt8) : Bool := (a.value? b).isSome

end Alphabet

/-- Why a text is no base64. Places are counted in bytes. -/
inductive Fault where
  | symbol (byte : UInt8) (offset : Nat)
  /-- The last symbol has bits that belong to no byte. -/
  | lastSymbol (byte : UInt8) (offset : Nat)
  | length (size : Nat)
  | padding
  deriving DecidableEq, Repr

def Fault.message : Fault → String
  | .symbol byte offset => s!"Invalid symbol {byte}, offset {offset}."
  | .lastSymbol byte offset => s!"Invalid last symbol {byte}, offset {offset}."
  | .length size => s!"Invalid input length: {size}"
  | .padding => "Invalid padding"

/-! Writing. -/

def encode (a : Alphabet) : List UInt8 → List UInt8
  | x :: y :: z :: rest =>
    let n := (x.toNat * 256 + y.toNat) * 256 + z.toNat
    a.symbol (n / 262144) :: a.symbol (n / 4096 % 64) :: a.symbol (n / 64 % 64) ::
      a.symbol (n % 64) :: encode a rest
  | [x, y] =>
    let n := (x.toNat * 256 + y.toNat) * 4
    [a.symbol (n / 4096), a.symbol (n / 64 % 64), a.symbol (n % 64), pad]
  | [x] => [a.symbol (x.toNat / 4), a.symbol (x.toNat * 16 % 64), pad, pad]
  | [] => []

/-! Reading. -/

/-- The value of a byte that has to be a symbol. -/
def valueAt (a : Alphabet) (offset : Nat) (b : UInt8) : Except Fault Nat :=
  match a.value? b with
  | some n => .ok n
  | none => .error (.symbol b offset)

/-- The symbols of the last group, up to its padding. -/
structure Tail where
  /-- Symbols with their values. -/
  symbols : List (UInt8 × Nat)
  pads : Nat

/-- Splits the last group, `seen` symbols of which were read before. Padding starts behind two
symbols at the earliest, and nothing but padding follows it. -/
def readTail (a : Alphabet) (offset : Nat) : Nat → List UInt8 → Except Fault Tail
  | _, [] => .ok ⟨[], 0⟩
  | seen, b :: rest =>
    if b = pad then
      if seen < 2 then .error (.symbol pad (offset + seen))
      else if rest.all (· == pad) then .ok ⟨[], rest.length + 1⟩
      else .error (.symbol pad (offset + seen))
    else do
      let n ← valueAt a (offset + seen) b
      let tail ← readTail a offset (seen + 1) rest
      return { tail with symbols := (b, n) :: tail.symbols }

/-- The bytes that the symbols of the last group stand for. -/
def tailBytes (offset : Nat) : List (UInt8 × Nat) → Except Fault (List UInt8)
  | [(_, p), (_, q), (_, r), (_, s)] =>
    let n := ((p * 64 + q) * 64 + r) * 64 + s
    .ok [UInt8.ofNat (n / 65536), UInt8.ofNat (n / 256 % 256), UInt8.ofNat (n % 256)]
  | [(_, p), (_, q), (c, r)] =>
    let n := (p * 64 + q) * 64 + r
    if n % 4 = 0 then .ok [UInt8.ofNat (n / 1024), UInt8.ofNat (n / 4 % 256)]
    else .error (.lastSymbol c (offset + 2))
  | [(_, p), (c, q)] =>
    let n := p * 64 + q
    if n % 16 = 0 then .ok [UInt8.ofNat (n / 16)] else .error (.lastSymbol c (offset + 1))
  | _ => .ok []

/-- Reads the last group, of at most four bytes; only an empty text has an empty last group. -/
def decodeTail (a : Alphabet) (offset : Nat) (text : List UInt8) : Except Fault (List UInt8) := do
  let tail ← readTail a offset 0 text
  let size := tail.symbols.length
  if text ≠ [] ∧ size < 2 then throw (.length (offset + size))
  if (size + tail.pads) % 4 ≠ 0 then throw .padding
  tailBytes offset tail.symbols

/-- Reads whole groups up to the last one. -/
def decodeGroups (a : Alphabet) (offset : Nat) : List UInt8 → Except Fault (List UInt8)
  | w :: x :: y :: z :: next :: rest => do
    let p ← valueAt a offset w
    let q ← valueAt a (offset + 1) x
    let r ← valueAt a (offset + 2) y
    let s ← valueAt a (offset + 3) z
    let n := ((p * 64 + q) * 64 + r) * 64 + s
    let bytes ← decodeGroups a (offset + 4) (next :: rest)
    return UInt8.ofNat (n / 65536) :: UInt8.ofNat (n / 256 % 256) :: UInt8.ofNat (n % 256) :: bytes
  | tail => decodeTail a offset tail

/-- A byte at the end that can not belong to a group begun by it alone, such as a line break. -/
def strayEnd (a : Alphabet) (text : List UInt8) : Option UInt8 :=
  if text.length % 4 = 1 then text.getLast?.filter fun b => b != pad && !a.isSymbol b else none

def decode (a : Alphabet) (text : List UInt8) : Except Fault (List UInt8) :=
  match strayEnd a text with
  | some b => .error (.symbol b (text.length - 1))
  | none => decodeGroups a 0 text

/-- Reads either alphabet; a fault is told as the URL-safe one sees it. -/
def decodeEither (text : List UInt8) : Except Fault (List UInt8) :=
  match decode standard text with
  | .ok bytes => .ok bytes
  | .error _ => decode urlSafe text

end RegistrySync.Base64
