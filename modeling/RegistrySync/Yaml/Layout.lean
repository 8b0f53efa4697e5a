import RegistrySync.Yaml.Block
import RegistrySync.Yaml.Property

/-!
From the text of a YAML document to its tokens.

Indentation opens and closes blocks. A scalar or a bracket may turn out to be a key once a colon
follows it on the same line; until then its place among the tokens is kept, and the colon puts a
token there. Where a block has to go on with a key, what stands there has to become one.
-/

namespace RegistrySync.Yaml

/-- A token that may turn out to start a key. -/
structure Candidate where
  /-- It stands where its block goes on, so it has to. -/
  required : Bool
  /-- Tokens in front of it. -/
  number : Nat
  place : Place
  deriving DecidableEq, Repr

/-- What has been read of a document. -/
structure Layout where
  rest : List Glyph
  tokens : Array Token
  /-- Columns of the open blocks, the innermost first. -/
  indents : List Nat
  /-- The candidate in the brackets, or the block, that are read. -/
  candidate : Option Candidate
  /-- The candidates outside each open bracket, the innermost first. -/
  outer : List (Option Candidate)
  /-- A key may start here. -/
  keyAllowed : Bool

namespace Layout

def start (gs : List Glyph) : Layout := ⟨gs, #[], [], none, [], true⟩

def inFlow (s : Layout) : Bool := !s.outer.isEmpty

/-- The first column in which a line belongs to what is inside the innermost block. -/
def margin (s : Layout) : Nat := s.indents.head?.elim 0 (· + 1)

/-- The column that comes next. -/
def column (s : Layout) : Nat := s.rest.head?.elim 0 (·.place.column)

def push (s : Layout) (t : Token) : Layout := { s with tokens := s.tokens.push t }

/-- Takes `n` glyphs for a token. -/
def take (s : Layout) (n : Nat) (t : Token) : Layout :=
  { s.push t with rest := s.rest.drop n }

/-- Closes the blocks for which `p` holds of the column. -/
def closeBlocks (p : Nat → Bool) (s : Layout) : Layout :=
  if s.inFlow then s
  else
    let closed := s.indents.takeWhile p
    { s with
      indents := s.indents.dropWhile p
      tokens := s.tokens ++ closed.toArray.map fun _ => Token.blockEnd }

/-- Opens a block in a column, unless it is open; its token is put behind `number` others. -/
def openBlock (column number : Nat) (t : Token) (s : Layout) : Layout :=
  if s.inFlow || column < s.margin then s
  else { s with
    indents := column :: s.indents
    tokens := s.tokens.insertIdxIfInBounds number t }

/-- The candidate is no key; none if it has to be. -/
def dropCandidate (s : Layout) : Option Layout :=
  if s.candidate.any (·.required) then none else some { s with candidate := none }

/-- What comes next may be a key. -/
def nominate (s : Layout) : Option Layout :=
  match s.keyAllowed, s.rest with
  | true, g :: _ => do
    let s ← s.dropCandidate
    let required := !s.inFlow && s.indents.head? == some g.place.column
    return { s with candidate := some ⟨required, s.tokens.size, g.place⟩ }
  | _, _ => some s

/-- A candidate is a key only on its own line and within so many characters. -/
def keyLimit : Nat := 1024

def Candidate.isStale (here : Place) (c : Candidate) : Bool :=
  c.place.line < here.line || c.place.index + keyLimit < here.index

/-- Drops the candidates that are too far behind; none if one of them has to be a key. -/
def dropStale (s : Layout) : Option Layout :=
  match s.rest with
  | [] => some s
  | g :: _ =>
    let stale (c : Option Candidate) : Bool := c.any (Candidate.isStale g.place)
    let forced (c : Option Candidate) : Bool :=
      c.any fun c => Candidate.isStale g.place c && c.required
    if (s.candidate :: s.outer).any forced then none
    else
      let renew (c : Option Candidate) : Option Candidate := if stale c then none else c
      some { s with candidate := renew s.candidate, outer := s.outer.map renew }

/-- Passes over blanks, comments and line breaks. Outside brackets a tab does not count as a blank
where a key may start, and a new line makes place for a key. -/
def skip (s : Layout) : Layout :=
  match _h : s.rest with
  | [] => s
  | g :: rest =>
    if g.isSpace || (g.isBlank && (s.inFlow || !s.keyAllowed)) then
      Layout.skip { s with rest := rest }
    else if g.char == '#' then
      Layout.skip { s with rest := rest.dropWhile fun g => !g.isBreak }
    else if g.isBreak then
      Layout.skip { s with rest := rest, keyAllowed := s.keyAllowed || !s.inFlow }
    else s
termination_by s.rest.length
decreasing_by
  · simp [_h]
  · have := length_dropWhile (fun g => !g.isBreak) rest
    simp only [_h, List.length_cons]
    omega
  · simp [_h]

/-! One token each. -/

/-- A mark between documents. -/
def mark (t : Token) (s : Layout) : Option Layout := do
  let s ← (s.closeBlocks fun _ => true).dropCandidate
  return { s.take 3 t with keyAllowed := false }

def directive (s : Layout) : Option Layout := do
  let s ← (s.closeBlocks fun _ => true).dropCandidate
  let (t, rest) ← Directive.read (s.rest.drop 1)
  return { s.push t with rest := rest, keyAllowed := false }

def openBracket (t : Token) (s : Layout) : Option Layout := do
  let s ← s.nominate
  return { s.take 1 t with
    candidate := none
    outer := s.candidate :: s.outer
    keyAllowed := true }

def closeBracket (t : Token) (s : Layout) : Option Layout := do
  let s ← s.dropCandidate
  let s := { s.take 1 t with keyAllowed := false }
  match s.outer with
  | c :: outer => return { s with candidate := c, outer := outer }
  | [] => return s

def comma (s : Layout) : Option Layout := do
  let s ← s.dropCandidate
  return { s.take 1 .comma with keyAllowed := true }

/-- Makes sure, outside brackets, that a block with such items may stand here. -/
def inBlock (opening : Token) (s : Layout) : Option Layout :=
  if s.inFlow then some s
  else if s.keyAllowed then some (s.openBlock s.column s.tokens.size opening)
  else none

def dash (s : Layout) : Option Layout := do
  let s ← (← s.inBlock .blockList).dropCandidate
  return { s.take 1 .dash with keyAllowed := true }

def key (s : Layout) : Option Layout := do
  let s ← (← s.inBlock .blockRecord).dropCandidate
  return { s.take 1 .key with keyAllowed := !s.inFlow }

def value (s : Layout) : Option Layout := do
  match s.candidate with
  | some c =>
    let s := { s with tokens := s.tokens.insertIdxIfInBounds c.number .key }
    let s := s.openBlock c.place.column c.number .blockRecord
    return { s.take 1 .value with candidate := none, keyAllowed := false }
  | none =>
    let s ← s.inBlock .blockRecord
    return { s.take 1 .value with keyAllowed := !s.inFlow }

def name (f : String → Token) (s : Layout) : Option Layout := do
  let s ← s.nominate
  let (name, rest) ← readName (s.rest.drop 1)
  return { s.push (f name) with rest := rest, keyAllowed := false }

def tag (s : Layout) : Option Layout := do
  let s ← s.nominate
  let (t, rest) ← Tag.read s.inFlow s.rest
  return { s.push t with rest := rest, keyAllowed := false }

def block (style : Style) (s : Layout) : Option Layout := do
  let s ← s.dropCandidate
  let (text, rest) ← Block.read style s.margin (s.rest.drop 1)
  return { s.push (.scalar (String.ofList text) style) with rest := rest, keyAllowed := true }

def quoted (body : List Glyph → Option (List Char × List Glyph)) (s : Layout) :
    Option Layout := do
  let s ← s.nominate
  let (text, rest) ← body (s.rest.drop 1)
  return { s.push (.scalar (String.ofList text) .quoted) with rest := rest, keyAllowed := false }

def plain (s : Layout) : Option Layout := do
  let s ← s.nominate
  let r ← Plain.read s.inFlow s.margin s.rest
  return { s.push (.scalar (String.ofList r.text) .plain) with
    rest := r.rest
    keyAllowed := r.onNewLine }

/-- Characters that start no plain scalar, though three of them do in front of others. -/
def isIndicator (c : Char) : Bool :=
  isFlowIndicator c ||
    c ∈ ['-', '?', ':', '#', '&', '*', '!', '|', '>', '\'', '"', '%', '@', '\x60']

/-- A plain scalar may start with `c` in front of `rest`. -/
def startsPlain (inFlow : Bool) (c : Char) (rest : List Glyph) : Bool :=
  if c == '-' then !atChar isBlank rest
  else if c == '?' || c == ':' then !inFlow && !atSpacing rest
  else !isIndicator c && !isSpacing c

/-- The next token, behind blanks. -/
def token (s : Layout) : Option Layout :=
  match s.rest with
  | [] => some s
  | g :: rest =>
    if g.char == '%' && g.place.column == 0 then s.directive
    else if atMark '-' s.rest then s.mark .documentStart
    else if atMark '.' s.rest then s.mark .documentEnd
    else match g.char with
      | '[' => s.openBracket .openList
      | '\x7b' => s.openBracket .openRecord
      | ']' => s.closeBracket .closeList
      | '\x7d' => s.closeBracket .closeRecord
      | ',' => s.comma
      | '*' => s.name .alias
      | '&' => s.name .anchor
      | '!' => s.tag
      | '\'' => s.quoted Quoted.single
      | '"' => s.quoted Quoted.double
      | c =>
        if c == '-' && atSpacing rest then s.dash
        else if c == '?' && (s.inFlow || atSpacing rest) then s.key
        else if c == ':' && (s.inFlow || atSpacing rest) then s.value
        else if c == '|' && !s.inFlow then s.block .literal
        else if c == '>' && !s.inFlow then s.block .folded
        else if startsPlain s.inFlow c rest then s.plain
        else none

/-- The tokens of the rest of a document. Every step takes a glyph, so their number bounds them. -/
def run : Nat → Layout → Option (Array Token)
  | 0, _ => none
  | n + 1, s => do
    let s ← s.skip.dropStale
    if s.rest.isEmpty then
      return (← (s.closeBlocks fun _ => true).dropCandidate).tokens
    run n (← (s.closeBlocks (s.column < ·)).token)

end Layout

/-- The tokens of a text, none if it is not well-formed. -/
def Token.scan (text : String) : Option (List Token) := do
  let gs ← Glyph.ofText text
  let tokens ← (Layout.start gs).run (gs.length + 1)
  return tokens.toList

end RegistrySync.Yaml
