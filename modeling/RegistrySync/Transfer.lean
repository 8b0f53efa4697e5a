import RegistrySync.World.Basic

/-!
Bringing the images of one repository to another.

A transfer pulls what it is asked for, finds out which images that gave, gives them their target
names and pushes these. A failure to pull, tag or push ends it; a failure to list only means that
fewer images are carried over.
-/

namespace RegistrySync

structure Transfer where
  source : String
  sourceAuth : String
  target : String
  targetAuth : String
  /-- The tags to carry over; none listed means all. -/
  tags : List String
  verbose : Bool
  deriving DecidableEq, Repr

namespace Transfer

variable {σ : Type} (w : World σ)

def tagged (reference tag : String) : String := reference ++ ":" ++ tag

/-- Whether the whole repository is carried over. -/
def isWhole (t : Transfer) : Bool := t.tags.isEmpty

/-- The references to pull and to list: one for each tag, or the repository itself. -/
def requested (t : Transfer) : List String :=
  if t.isWhole then [t.source] else t.tags.map (tagged t.source)

def pull (t : Transfer) (reference : String) : World.Attempt σ Unit :=
  w.askFor (.pull reference t.sourceAuth t.isWhole t.verbose) fun e => .pull reference e.message

def listFailure (t : Transfer) (reference : String) (e : Error) : String :=
  "error listing " ++ (if t.isWhole then "all tags of " else "") ++ "source image '" ++ reference ++
    "': " ++ e.message

/-- The images under a reference, none if they can not be listed. -/
def list (t : Transfer) (reference : String) : StateM σ (List Image) := do
  match ← (w.ask (.list reference)).run with
  | .ok images => return images
  | .error e =>
    w.say .error (t.listFailure reference e)
    return []

/-- The images under several references, in their order. -/
def listAll (t : Transfer) : List String → StateM σ (List Image)
  | [] => pure []
  | r :: rs => do
    let images ← t.list w r
    let more ← listAll t rs
    return images ++ more

/-- The target names of images: one for each tag, with the id it is given to. -/
def names (t : Transfer) (images : List Image) : List (String × String) :=
  let (repo, path) := Reference.split t.target
  images.flatMap fun i => i.tags.map fun tag => (i.id, tagged (i.retarget repo path).reference tag)

def rename (name : String × String) : World.Attempt σ Unit :=
  w.askFor (.tag name.1 name.2) fun e => .tag e.message

def push (t : Transfer) : World.Attempt σ Unit :=
  w.askFor (.push t.target true t.targetAuth t.verbose) fun e => .push e.message

def run (t : Transfer) : World.Attempt σ Unit := do
  w.info ("pulling source image '" ++ t.source ++ "'")
  t.requested.forM (t.pull w)
  w.info "relevant tags"
  let images ← t.listAll w t.requested
  images.forM fun i => (w.info (" - " ++ i.display) : StateM σ Unit)
  w.info ("setting tags for target image '" ++ t.target ++ "'")
  (t.names images).forM (rename w)
  w.info ("pushing target image '" ++ t.target ++ "'")
  t.push w

end Transfer

end RegistrySync
