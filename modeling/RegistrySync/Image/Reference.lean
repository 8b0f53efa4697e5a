import RegistrySync.Text.Blank
import RegistrySync.Text.Cut

/-!
Image references.

A reference is read as registry host, repository path and tag. A digest is dropped. The last
colon begins a tag unless a slash follows it or it ends a registry host, so that `host:5000` is a
host with its port. The first segment is a host when it has a dot or a colon or is `localhost`.

`normalizeName` is the spelling that names are compared in: the hub has one host name, and its
single-segment repositories stand under `library`.
-/

namespace RegistrySync

open Text

structure Reference where
  /-- Registry host, empty if the reference names none. -/
  repo : String
  /-- Repository path under the host, without slashes at its ends. -/
  path : String
  tag : Option String
  deriving DecidableEq, Repr

namespace Reference

/-- The registry assumed for names without a host. -/
def hubHost : String := "docker.io"

/-- The library folder of the hub. -/
def hubFolder : String := "library"

def isHost (segment : List Char) : Bool :=
  segment.contains '.' || segment.contains ':' || segment == "localhost".toList

/-- Whether a colon between the two parts begins a tag. -/
def isTagColon (before after : List Char) : Bool :=
  !after.contains '/' && !(!before.contains '/' && isHost before)

/-- Splits a text without digest into name and tag. -/
def splitTag (text : List Char) : List Char × Option (List Char) :=
  match cutLast ':' text with
  | some (before, after) => if isTagColon before after then (before, some after) else (text, none)
  | none => (text, none)

/-- Splits a name into host and path. -/
def splitHost (name : List Char) : List Char × List Char :=
  match cutFirst '/' name with
  | some (first, rest) => if isHost first then (first, rest) else ([], name)
  | none => if isHost name then (name, []) else ([], name)

def withoutDigest (text : List Char) : List Char := text.takeWhile (· != '@')

def parse (text : String) : Reference :=
  let (name, tag) := splitTag (withoutDigest text.toList)
  let (repo, path) := splitHost name
  { repo := String.ofList repo
    path := String.ofList (trimBy (· == '/') path)
    tag := (tag.filter (!·.isEmpty)).map String.ofList }

/-- Host and path joined by a slash; a missing part leaves none. -/
def join (repo path : String) : String :=
  if repo.isEmpty then path else if path.isEmpty then repo else repo ++ "/" ++ path

/-- The reference without its tag. -/
def name (r : Reference) : String := join r.repo r.path

/-- The reference as it is written. -/
def text (r : Reference) : String :=
  r.name ++ match r.tag with
    | none => ""
    | some tag => ":" ++ tag

/-- A tag that can be written behind a name. -/
def isTag (tag : String) : Bool :=
  !tag.isEmpty && tag.toList.all fun c => c != '/' && c != ':' && c != '@'

/-- What every reference that was read is like. -/
structure IsShaped (r : Reference) : Prop where
  /-- There is no host, or it is one segment. -/
  repo : r.repo = "" ∨ isHost r.repo.toList ∧ '/' ∉ r.repo.toList ∧ '@' ∉ r.repo.toList
  path : '@' ∉ r.path.toList ∧ r.path.toList.head? ≠ some '/' ∧ r.path.toList.getLast? ≠ some '/'
  tag : ∀ tag ∈ r.tag, isTag tag

/-- The tag a registry takes when none is named. -/
def tagOrLatest (r : Reference) : String := r.tag.getD "latest"

/-- The one host name of the hub. -/
def normalizeHost (repo : String) : String :=
  if repo = "" ∨ repo = "index.docker.io" ∨ repo = "registry-1.docker.io" then hubHost else repo

/-- The spelling in which names are compared. -/
def normalizeName (text : String) : String :=
  let r := parse text
  let repo := normalizeHost r.repo
  if repo = hubHost ∧ ¬ r.path.toList.contains '/' ∧ ¬ r.path.isEmpty then
    repo ++ "/" ++ hubFolder ++ "/" ++ r.path
  else join repo r.path

/-- Host and path of a reference. -/
def split (text : String) : String × String :=
  let r := parse text
  (r.repo, r.path)

end Reference

end RegistrySync
