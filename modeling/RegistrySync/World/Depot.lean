import RegistrySync.Image.Inventory
import RegistrySync.World.Basic

/-!
A world in which a daemon holds images and a registry holds more of them.

Both are shelves on which an entry, a name in its normal spelling with a tag, holds the id of an
image. Pulling copies entries from the far shelf to the near one, pushing copies them back, and
a tag is a further entry on the near shelf. What is listed is what the near shelf holds.
-/

namespace RegistrySync

/-- Where an id stands on a shelf. -/
structure Entry where
  name : String
  tag : String
  deriving DecidableEq, Repr

/-- The name by which the daemon shows an entry. -/
def Entry.reference (e : Entry) : String := e.name ++ ":" ++ e.tag

/-- The entry that a reference means. -/
def Entry.ofReference (reference : String) : Entry :=
  let r := Reference.parse reference
  ⟨Reference.normalizeName r.name, r.tagOrLatest⟩

/-- Entries with their ids; of several that are equal the first one holds. -/
abbrev Shelf := List (Entry × String)

namespace Shelf

def get? (s : Shelf) (e : Entry) : Option String := List.lookup e s

def put (s : Shelf) (e : Entry) (id : String) : Shelf := (e, id) :: s

/-- The entries on a shelf, each once. -/
def entries (s : Shelf) : List Entry := (s.map (·.1)).eraseDups

/-- The entries that a reference asks for, with their ids: one, or all of its repository. -/
def asked (s : Shelf) (reference : String) (allTags : Bool) : Shelf :=
  let e := Entry.ofReference reference
  let wanted := if allTags then s.entries.filter (·.name == e.name) else [e]
  wanted.filterMap fun e => (s.get? e).map (e, ·)

/-- A shelf with the entries of another one put on it. -/
def putAll (s more : Shelf) : Shelf := more.foldr (fun p s => s.put p.1 p.2) s

/-- What the daemon tells of its images: each id once, with the entries that hold it. -/
def inventory (s : Shelf) : List Summary :=
  (s.map (·.2)).eraseDups.filterMap fun id =>
    match s.entries.filter fun e => s.get? e == some id with
    | [] => none
    | es => some ⟨id, some (es.map Entry.reference)⟩

@[simp] theorem get?_put (s : Shelf) (e f : Entry) (id : String) :
    (s.put e id).get? f = if f = e then some id else s.get? f := by
  rw [get?, put, List.lookup_cons]
  split
  · rename_i h
    rw [if_pos (eq_of_beq h)]
  · rename_i h
    rw [if_neg fun e => by simp [e] at h]
    rfl

end Shelf

structure Depot where
  /-- What the daemon holds. -/
  near : Shelf
  /-- What the registry holds. -/
  far : Shelf
  deriving DecidableEq, Repr

namespace Depot

/-- Why a reference can not be pulled. -/
def absent (reference : String) : Error := .notFound (reference ++ " is not in the registry")

def pull (reference : String) (allTags : Bool) (d : Depot) : Except Error Unit × Depot :=
  match d.far.asked reference allTags with
  | [] => (.error (absent reference), d)
  | found => (.ok (), { d with near := d.near.putAll found })

def push (reference : String) (allTags : Bool) (d : Depot) : Depot :=
  { d with far := d.far.putAll (d.near.asked reference allTags) }

def tag (id reference : String) (d : Depot) : Depot :=
  { d with near := d.near.put (.ofReference reference) id }

def list (reference : String) (d : Depot) : List Image :=
  Image.matching (.parse reference) d.near.inventory

/-- The world of a depot; lines go nowhere, and any login and any repository is to be had. -/
def world : World Depot where
  answer c d :=
    match c with
    | .ping _ _ => (.ok (), d)
    | .pull reference _ allTags _ => d.pull reference allTags
    | .list reference => (.ok (d.list reference), d)
    | .tag id reference => (.ok (), d.tag id reference)
    | .push reference allTags _ _ => (.ok (), d.push reference allTags)
    | .issueLogin _ => (.ok ⟨"", ""⟩, d)
    | .ensureRepository _ _ => (.ok (), d)
  print _ d := d

end Depot

end RegistrySync
