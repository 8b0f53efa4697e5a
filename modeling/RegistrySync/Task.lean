import RegistrySync.Registry.Location
import RegistrySync.Text.Blank

/-!
What there is to do: tasks, each a pair of locations and the paths to keep in step between them.
-/

namespace RegistrySync

open Text

/-- A source path and the target path it goes to, for all tags or for some. -/
structure Mapping where
  source : String
  target : String
  /-- The tags to take; none listed means all. -/
  tags : List String
  deriving DecidableEq, Repr

namespace Mapping

/-- A path with one slash before it and none behind it; an empty path stays empty. -/
def normalizePath (path : String) : String :=
  let cs := trimEndBy (· == '/') (trimBy isBlank path.toList)
  match cs with
  | [] => ""
  | '/' :: _ => String.ofList cs
  | _ => String.ofList ('/' :: cs)

/-- The mapping between two paths; a blank target path is that of the source. -/
def ofPaths (source target : String) (tags : List String) : Mapping :=
  let source := normalizePath source
  { source, tags, target := if onlyBlanks target then source else normalizePath target }

end Mapping

structure Task where
  name : String
  source : Location
  target : Location
  mappings : List Mapping
  /-- Milliseconds between runs; zero for a task that runs once. -/
  interval : Nat
  verbose : Bool
  deriving DecidableEq, Repr

namespace Task

def isRecurring (t : Task) : Bool := t.interval != 0

/-- Endpoint and path as one reference. -/
def referenceAt (l : Location) (path : String) : String :=
  String.ofList (trimEndBy (· == '/') l.registry.toList) ++ path

/-- The source and target references of a mapping. -/
def refs (t : Task) (m : Mapping) : String × String :=
  (referenceAt t.source m.source, referenceAt t.target m.target)

end Task

end RegistrySync
