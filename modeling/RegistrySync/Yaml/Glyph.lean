/-!
The text of a YAML document, with the place of every character.

Line breaks are told apart by what becomes of them in a scalar: carriage return, line feed, the two
together and NEL all read as a line feed, the line and paragraph separators read as themselves.
-/

namespace RegistrySync.Yaml

structure Place where
  line : Nat
  column : Nat
  /-- Characters in front of it. -/
  index : Nat
  deriving DecidableEq, Repr

/-- A character and where it stands. A line break of two characters is one of them. -/
structure Glyph where
  char : Char
  place : Place
  deriving DecidableEq, Repr

/-- The characters that a document may be written with. -/
def isWritable (c : Char) : Bool :=
  let n := c.toNat
  n == 9 || n == 0xA || n == 0xD || (0x20 ≤ n && n ≤ 0x7E) || n == 0x85 ||
    (0xA0 ≤ n && n ≤ 0xFFFD) || 0x10000 ≤ n

def lineSeparator : Char := Char.ofNat 0x2028

def paragraphSeparator : Char := Char.ofNat 0x2029

/-- What a character reads as if it ends a line. -/
def asBreak? (c : Char) : Option Char :=
  if c == '\n' || c == '\r' || c.toNat == 0x85 then some '\n'
  else if c == lineSeparator || c == paragraphSeparator then some c
  else none

def Place.next (p : Place) : Place := ⟨p.line, p.column + 1, p.index + 1⟩

/-- The start of the line behind a break of `size` characters. -/
def Place.newLine (p : Place) (size : Nat) : Place := ⟨p.line + 1, 0, p.index + size⟩

/-- The glyphs of a text that starts at `p`. -/
def Glyph.placed (p : Place) : List Char → List Glyph
  | [] => []
  | '\r' :: '\n' :: cs => ⟨'\n', p⟩ :: Glyph.placed (p.newLine 2) cs
  | c :: cs =>
    match asBreak? c with
    | some b => ⟨b, p⟩ :: Glyph.placed (p.newLine 1) cs
    | none => ⟨c, p⟩ :: Glyph.placed p.next cs

def byteOrderMark : Char := Char.ofNat 0xFEFF

/-- The glyphs of a document, none if it has a character that may not be written. A byte order mark
at its start is passed over but takes a place. -/
def Glyph.ofText (text : String) : Option (List Glyph) :=
  let start : Place := ⟨0, 0, 0⟩
  if !text.toList.all isWritable then none
  else match text.toList with
    | c :: cs => some (if c == byteOrderMark then placed start.next cs else placed start (c :: cs))
    | [] => some []

/-! Classes of characters, after breaks have been read. -/

/-- A space or a tab. -/
def isBlank (c : Char) : Bool := c == ' ' || c == '\t'

def isBreak (c : Char) : Bool := c == '\n' || c == lineSeparator || c == paragraphSeparator

def isSpacing (c : Char) : Bool := isBlank c || isBreak c

/-- The characters of names. -/
def isNameChar (c : Char) : Bool := c.isAlphanum || c == '_' || c == '-'

/-- Brackets and the comma, which have a meaning inside brackets. -/
def isFlowIndicator (c : Char) : Bool :=
  c == ',' || c == '[' || c == ']' || c == '\x7b' || c == '\x7d'

namespace Glyph

def isSpace (g : Glyph) : Bool := g.char == ' '

def isBlank (g : Glyph) : Bool := Yaml.isBlank g.char

def isBreak (g : Glyph) : Bool := Yaml.isBreak g.char

def isSpacing (g : Glyph) : Bool := Yaml.isSpacing g.char

end Glyph

/-- A blank, a line break or the end comes next. -/
def atSpacing (gs : List Glyph) : Bool := gs.head?.all Glyph.isSpacing

/-- A line break or the end comes next. -/
def atLineEnd (gs : List Glyph) : Bool := gs.head?.all Glyph.isBreak

/-- A character for which `p` holds comes next. -/
def atChar (p : Char → Bool) (gs : List Glyph) : Bool := gs.head?.any fun g => p g.char

/-- The character comes next. -/
def startsWith (c : Char) (gs : List Glyph) : Bool := atChar (· == c) gs

/-- Three times `c` at the start of a line and with nothing behind them. -/
def atMark (c : Char) : List Glyph → Bool
  | a :: b :: d :: rest =>
    a.place.column == 0 && a.char == c && b.char == c && d.char == c && atSpacing rest
  | _ => false

/-- A mark that starts or ends a document. -/
def atDocumentMark (gs : List Glyph) : Bool := atMark '-' gs || atMark '.' gs

/-- What follows blanks. -/
def skipBlanks (gs : List Glyph) : List Glyph := gs.dropWhile Glyph.isBlank

/-- What follows a comment, if one comes next. -/
def skipComment (gs : List Glyph) : List Glyph :=
  if startsWith '#' gs then gs.dropWhile fun g => !g.isBreak else gs

/-- What follows the end of a line, none if anything but blanks and a comment is left on it. -/
def endLine (gs : List Glyph) : Option (List Glyph) :=
  let gs := skipComment (skipBlanks gs)
  if atLineEnd gs then some (gs.drop 1) else none

def chars (gs : List Glyph) : List Char := gs.map Glyph.char

theorem length_dropWhile (p : Glyph → Bool) (gs : List Glyph) :
    (gs.dropWhile p).length ≤ gs.length := (List.dropWhile_sublist p).length_le

end RegistrySync.Yaml
