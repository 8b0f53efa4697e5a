import RegistrySync.Schema.Mismatch

/-!
Why a text is not the JSON that is wanted.
-/

namespace RegistrySync.Json

open Schema

inductive Fault where
  | endInValue
  | endInText
  | endInList
  | endInRecord
  | expectedValue
  /-- A word that is neither `null` nor `true` nor `false`. -/
  | expectedWord
  | expectedColon
  | expectedCommaOrBrace
  | expectedCommaOrBracket
  | keyNotText
  | trailingComma
  | trailingCharacters
  | invalidNumber
  | numberOutOfRange
  | invalidEscape
  | controlCharacter
  | invalidCodePoint
  | unfinishedEscape
  | loneSurrogate
  | tooDeep
  /-- JSON, but not of the wanted shape. -/
  | mismatch (m : Mismatch)
  deriving DecidableEq, Repr

/-- JSON calls the empty value by its name. -/
def wording : Wording := ⟨"null", Number.scientific⟩

def Fault.message : Fault → String
  | .endInValue => "EOF while parsing a value"
  | .endInText => "EOF while parsing a string"
  | .endInList => "EOF while parsing a list"
  | .endInRecord => "EOF while parsing an object"
  | .expectedValue => "expected value"
  | .expectedWord => "expected ident"
  | .expectedColon => "expected `:`"
  | .expectedCommaOrBrace => "expected `,` or `\x7d`"
  | .expectedCommaOrBracket => "expected `,` or `]`"
  | .keyNotText => "key must be a string"
  | .trailingComma => "trailing comma"
  | .trailingCharacters => "trailing characters"
  | .invalidNumber => "invalid number"
  | .numberOutOfRange => "number out of range"
  | .invalidEscape => "invalid escape"
  | .controlCharacter => "control character (\\u0000-\\u001F) found while parsing a string"
  | .invalidCodePoint => "invalid unicode code point"
  | .unfinishedEscape => "unexpected end of hex escape"
  | .loneSurrogate => "lone leading surrogate in hex escape"
  | .tooDeep => "recursion limit exceeded"
  | .mismatch m => m.message wording

end RegistrySync.Json
