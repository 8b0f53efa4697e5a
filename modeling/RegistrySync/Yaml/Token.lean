/-!
The tokens of a YAML document.

Blocks are made by indentation, so the tokens that open and close them stand for no characters of
their own. Lists and records in brackets have a token for every bracket.
-/

namespace RegistrySync.Yaml

/-- How a scalar is written. -/
inductive Style where
  | plain
  /-- Between single or double quotes. -/
  | quoted
  /-- A block that keeps its lines. -/
  | literal
  /-- A block that joins its lines. -/
  | folded
  deriving DecidableEq, Repr

inductive Token where
  | version (major minor : Nat)
  /-- Gives tags with the handle the beginning `start`. -/
  | handle (handle start : String)
  | documentStart
  | documentEnd
  | blockList
  | blockRecord
  | blockEnd
  | openList
  | closeList
  | openRecord
  | closeRecord
  /-- The dash in front of an item. -/
  | dash
  | comma
  /-- What comes next is a key. -/
  | key
  /-- What comes next is a value. -/
  | value
  | alias (name : String)
  | anchor (name : String)
  | tag (handle suffix : String)
  | scalar (text : String) (style : Style)
  deriving DecidableEq, Repr

end RegistrySync.Yaml
