import RegistrySync.Text.Utf8
import RegistrySync.Yaml.Quoted
import RegistrySync.Yaml.Token

/-!
Anchors, aliases, tags and directives.
-/

namespace RegistrySync.Yaml

/-- The characters up to the first for which `p` does not hold, and what follows. -/
def span (p : Char → Bool) (gs : List Glyph) : List Char × List Glyph :=
  (chars (gs.takeWhile fun g => p g.char), gs.dropWhile fun g => p g.char)

/-- What may follow the name of an anchor. -/
def endsName (c : Char) : Bool := isSpacing c || c ∈ ['?', ':', ',', ']', '\x7d', '%', '@', '\x60']

/-- The name behind the sign of an anchor or alias. -/
def readName (gs : List Glyph) : Option (String × List Glyph) :=
  let (name, rest) := span isNameChar gs
  if name.isEmpty || !rest.head?.all (fun g => endsName g.char) then none
  else some (String.ofList name, rest)

namespace Tag

/-- The characters of tags, those that flow text reserves aside. -/
def isTagChar (c : Char) : Bool :=
  isNameChar c ||
    c ∈ [';', '/', '?', ':', '@', '&', '=', '+', '$', '.', '%', '!', '~', '*', '\'', '(', ')']

/-- The characters of tags between angles and of directives. -/
def isUriChar (c : Char) : Bool := isTagChar c || c == ',' || c == '[' || c == ']'

/-- The byte that a percent sign and two hexadecimal digits stand for. -/
def escapedByte? : List Char → Option (Nat × List Char)
  | '%' :: a :: b :: rest => do return (← Text.inRadix 16 [a, b], rest)
  | _ => none

/-- How many bytes a character takes that starts with this one. -/
def width? (byte : Nat) : Option Nat :=
  if byte < 0x80 then some 1
  else if byte < 0xC0 then none
  else if byte < 0xE0 then some 2
  else if byte < 0xF0 then some 3
  else if byte < 0xF8 then some 4
  else none

/-- That many more bytes of one character. -/
def tailBytes : Nat → List Char → Option (List UInt8 × List Char)
  | 0, cs => some ([], cs)
  | n + 1, cs => do
    let (b, rest) ← escapedByte? cs
    if b < 0x80 || 0xC0 ≤ b then failure
    let (bs, rest) ← tailBytes n rest
    return (UInt8.ofNat b :: bs, rest)

/-- The bytes of one escaped character. -/
def escaped (cs : List Char) : Option (List UInt8 × List Char) := do
  let (b, rest) ← escapedByte? cs
  let (bs, rest) ← tailBytes ((← width? b) - 1) rest
  return (UInt8.ofNat b :: bs, rest)

/-- The text with its escapes read; the first argument bounds the number of characters. -/
def unescape : Nat → List Char → Option (List UInt8)
  | _, [] => some []
  | 0, _ => none
  | n + 1, '%' :: cs => do
    let (bs, rest) ← escaped ('%' :: cs)
    return bs ++ (← unescape n rest)
  | n + 1, c :: cs => do return String.utf8EncodeChar c ++ (← unescape n cs)

def decode (cs : List Char) : Option String :=
  (unescape cs.length cs).map Text.Utf8.decodeLossy

/-- The handle at the start: signs around a name, or one sign and a name. -/
def readHandle (gs : List Glyph) : Option (List Char × List Glyph) :=
  match gs with
  | g :: rest =>
    if g.char ≠ '!' then none
    else
      let (name, rest) := span isNameChar rest
      if startsWith '!' rest then some ('!' :: name ++ ['!'], rest.drop 1)
      else some ('!' :: name, rest)
  | [] => none

/-- A handle that ends with a sign of its own. -/
def isHandle (cs : List Char) : Bool := 1 < cs.length && cs.getLast? == some '!'

/-- A tag at the start, as its handle and what follows it. Between angles a tag is complete. -/
def readParts (gs : List Glyph) : Option ((String × String) × List Glyph) :=
  if startsWith '<' (gs.drop 1) then do
    let (uri, rest) := span isUriChar (gs.drop 2)
    if uri.isEmpty || !startsWith '>' rest then failure
    return (("", ← decode uri), rest.drop 1)
  else do
    let (handle, rest) ← readHandle gs
    let (suffix, rest) := span isTagChar rest
    let suffix ← decode suffix
    if isHandle handle then
      if suffix.isEmpty then failure
      return ((String.ofList handle, suffix), rest)
    let suffix := String.ofList (handle.drop 1) ++ suffix
    return (if suffix.isEmpty then ("", "!") else ("!", suffix), rest)

/-- A tag, which a blank has to follow, in brackets also a comma may. -/
def read (inFlow : Bool) (gs : List Glyph) : Option (Token × List Glyph) := do
  let ((handle, suffix), rest) ← readParts gs
  if !atSpacing rest && !(inFlow && startsWith ',' rest) then failure
  return (.tag handle suffix, rest)

end Tag

namespace Directive

/-- At most nine digits. -/
def readNumber (gs : List Glyph) : Option (Nat × List Glyph) :=
  let (digits, rest) := span Char.isDigit gs
  if digits.isEmpty || 9 < digits.length then none
  else some (digits.foldl (fun n c => n * 10 + (c.toNat - 48)) 0, rest)

def readVersion (gs : List Glyph) : Option (Token × List Glyph) := do
  let (major, rest) ← readNumber gs
  if !startsWith '.' rest then failure
  let (minor, rest) ← readNumber (rest.drop 1)
  return (.version major minor, rest)

def readTag (gs : List Glyph) : Option (Token × List Glyph) := do
  let (handle, rest) ← Tag.readHandle gs
  if handle ≠ ['!'] && !Tag.isHandle handle then failure
  if !atChar isBlank rest then failure
  let (uri, rest) := span Tag.isUriChar (skipBlanks rest)
  if uri.isEmpty || !atSpacing rest then failure
  return (.handle (String.ofList handle) (← Tag.decode uri), rest)

/-- The directive behind a percent sign, which takes the whole line. -/
def read (gs : List Glyph) : Option (Token × List Glyph) := do
  let (name, rest) := span isNameChar gs
  if !atSpacing rest then failure
  let (token, rest) ← match String.ofList name with
    | "YAML" => readVersion (skipBlanks rest)
    | "TAG" => readTag (skipBlanks rest)
    | _ => none
  return (token, ← endLine rest)

end Directive

end RegistrySync.Yaml
