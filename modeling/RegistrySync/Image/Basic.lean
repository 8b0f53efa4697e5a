import RegistrySync.Image.Reference

/-!
Images: a content id and the tags it carries in one repository.

The tags of an image are a set, kept as a strictly increasing list, so that everything done for
each tag is done in one order.
-/

namespace RegistrySync

/-- Puts `s` into an increasing list, once. -/
def insertUnique (s : String) : List String → List String
  | [] => [s]
  | t :: ts => if s < t then s :: t :: ts else if s = t then t :: ts else t :: insertUnique s ts

/-- The members of a list in increasing order, each once. -/
def sortUnique (ss : List String) : List String := ss.foldr insertUnique []

theorem mem_insertUnique {x s : String} {ts : List String} :
    x ∈ insertUnique s ts ↔ x = s ∨ x ∈ ts := by
  induction ts with
  | nil => simp [insertUnique]
  | cons t ts ih =>
    by_cases h : s < t
    · simp [insertUnique, h]
    · by_cases e : s = t
      · simp [insertUnique, e]
      · simp only [insertUnique, h, e, if_false, List.mem_cons, ih]
        exact or_left_comm

theorem mem_sortUnique {x : String} {ss : List String} : x ∈ sortUnique ss ↔ x ∈ ss := by
  induction ss with
  | nil => rfl
  | cons s ss ih => simpa [sortUnique, mem_insertUnique] using or_congr_right ih

structure Image where
  id : String
  repo : String
  path : String
  tags : List String
  deriving DecidableEq, Repr

namespace Image

def ofTags (id repo path : String) (tags : List String) : Image :=
  ⟨id, repo, path, sortUnique tags⟩

/-- The repository, without a tag. -/
def reference (i : Image) : String := Reference.join i.repo i.path

/-- The same content and tags in another repository. -/
def retarget (i : Image) (repo path : String) : Image := { i with repo, path }

/-- The repository with all tags, as shown to the user. -/
def display (i : Image) : String := i.reference ++ ":[" ++ Text.joinWith ", " i.tags ++ "]"

end Image

end RegistrySync
