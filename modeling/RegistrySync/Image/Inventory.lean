import RegistrySync.Image.Basic
import RegistrySync.Schema.Basic

/-!
The images that a daemon has, and those of them that a reference means.

The daemon tells for each image under which names it knows it. A reference means the images with
a name of the same repository, and of the same tag if it has one; names are compared in their
normal spelling.
-/

namespace RegistrySync

/-- What the daemon tells of an image. -/
structure Summary where
  id : String
  names : Option (List String)
  deriving DecidableEq, Repr

namespace Summary

def fields : Fields (String × Option (List String) × Unit) :=
  .cons (.required "Id") .text <|
    .cons (.optional "RepoTags" none) (.optional (.list .text)) .nil

def schema : Schema Summary :=
  .record "ImageSummary" fields (fun p => ⟨p.1, p.2.1⟩) (fun s => (s.id, s.names, ()))

/-- The tag that a name carries, if the reference means it. -/
def matchingTag (wanted : Reference) (name : String) : Option String :=
  let r := Reference.parse name
  if Reference.normalizeName r.name = Reference.normalizeName wanted.name then
    r.tag.filter fun t => wanted.tag.all (· == t)
  else none

/-- The image under the repository of the reference, if the reference means it. -/
def image? (wanted : Reference) (s : Summary) : Option Image :=
  match (s.names.getD []).filterMap (matchingTag wanted) with
  | [] => none
  | tags => some (.ofTags s.id wanted.repo wanted.path tags)

end Summary

namespace Image

/-- Puts an image in the order of ids, behind those with its id. -/
def insertById (i : Image) : List Image → List Image
  | [] => [i]
  | j :: rest => if i.id < j.id then i :: j :: rest else j :: insertById i rest

/-- Images in the order of their ids; those of one id stay in order. -/
def sortById (images : List Image) : List Image :=
  images.foldl (fun done i => insertById i done) []

/-- The images that a reference means, in the order of their ids. -/
def matching (wanted : Reference) (inventory : List Summary) : List Image :=
  sortById (inventory.filterMap (Summary.image? wanted))

end Image

end RegistrySync
