import RegistrySync.Schema.Mismatch

/-!
Why a YAML document can not be read, and how that reads.
-/

namespace RegistrySync.Yaml

/-- A step from a node to a part of it. -/
inductive Step where
  | item (index : Nat)
  | member (name : String)
  /-- A member whose key is an alias. -/
  | unnamed
  deriving DecidableEq, Repr

/-- The way to a node, the last step first. -/
abbrev Path := List Step

def Path.text : Path → String
  | [] => ""
  | .item i :: p => text p ++ "[" ++ toString i ++ "]"
  | .member name :: p => lead p ++ name
  | .unnamed :: p => lead p ++ "?"
where
  /-- What stands in front of a name. -/
  lead (p : Path) : String := if p.isEmpty then "" else text p ++ "."

inductive Fault where
  | notWellFormed
  /-- Something other than what is expected, at a place. -/
  | mismatch (path : Path) (m : Schema.Mismatch)
  /-- Aliases are followed too often. -/
  | tooManyRepetitions
  deriving DecidableEq, Repr

/-- Numbers are written without exponents, and nothing is named unit. -/
def wording : Schema.Wording := ⟨"unit value", Number.positional⟩

def Fault.message : Fault → String
  | .notWellFormed => "not a well-formed document"
  | .mismatch [] m => m.message wording
  | .mismatch path m => path.text ++ ": " ++ m.message wording
  | .tooManyRepetitions => "repetition limit exceeded"

end RegistrySync.Yaml
