import RegistrySync.Daemon.Address
import RegistrySync.Daemon.Progress
import RegistrySync.Daemon.Refusal
import RegistrySync.Daemon.Transport
import RegistrySync.Image.Inventory

/-!
Operations on a daemon.

Each is one request, except for the ping, which is repeated until the daemon answers or the
attempts are used up.
-/

namespace RegistrySync.Daemon

/-- Steps that exchange requests and answers. -/
abbrev Attempt (σ α : Type) : Type := ExceptT Error (StateM σ) α

/-- The body of an answer as bytes, unless it broke off. -/
def Answer.body? (a : Answer) : Option (List UInt8) :=
  if a.status.isBodiless then some [] else if a.isComplete then some a.chunks.flatten else none

/-- An answer, unless its status says that the request failed. -/
def Answer.accepted (a : Answer) (operation : String) : Except Error Answer :=
  if a.status.isSuccess then .ok a
  else
    let text := (a.body?.map Text.Utf8.decodeLossy).getD "Failed to read error response"
    .error (refusal a.status text operation)

namespace Client

variable {σ : Type} (t : Transport σ) (a : Access)

/-- Sends a request and takes the answer if it is good. -/
def send (r : Request) (operation : String) : Attempt σ Answer := fun s =>
  match t.exchange r s with
  | (.error f, s) => (.error (f.error operation), s)
  | (.ok answer, s) => (answer.accepted operation, s)

def say (level : Level) (message : String) : StateM σ Unit := modify (t.print ⟨level, message⟩)

/-- Reads the messages in an answer, showing them if asked to. -/
def follow (answer : Answer) (verbose : Bool) : Attempt σ Unit := do
  let chunks := if answer.status.isBodiless then [] else answer.chunks
  let isComplete := answer.status.isBodiless || answer.isComplete
  let p := Progress.ofChunks chunks isComplete (Failure.brokenBody.error "message stream")
  if verbose then p.shown.forM fun text => (say t .info text : StateM σ Unit)
  match p.error with
  | some e => throw e
  | none => return

def pingFailure (attempt attempts : Nat) (e : Error) : String :=
  s!"Docker daemon not reachable (attempt {attempt}/{attempts}): " ++ e.message

/-- Attempts to send `r` from `attempt` on, with `left` more after it. -/
def pingFrom (r : Request) (attempts interval : Nat) : (left attempt : Nat) → Attempt σ Unit
  | left, attempt => fun s =>
    match (send t r "ping").run s with
    | (.ok _, s) => (.ok (), s)
    | (.error e, s) =>
      let s := t.print ⟨.warn, pingFailure attempt attempts e⟩ s
      match left with
      | 0 =>
        (.error (.daemon (s!"Docker daemon not reachable after {attempts} attempts: " ++ e.message)), s)
      | n + 1 => pingFrom r attempts interval n (attempt + 1) (t.sleep interval s)

/-- Waits for the daemon; there is always one attempt. -/
def ping (attempts interval : Nat) : Attempt σ Unit :=
  let attempts := max attempts 1
  pingFrom t a.ping attempts interval (attempts - 1) 1

def pull (reference auth : String) (allTags verbose : Bool) : Attempt σ Unit := do
  let answer ← send t (a.pull reference auth allTags) "pull"
  follow t answer verbose

/-- The images of a body that lists all there are. -/
def imagesOf (reference : String) (body : List UInt8) : Except Error (List Image) :=
  match (Schema.list Summary.schema).ofText (Text.Utf8.decodeLossy body) with
  | .error f => .error (.parse f.message)
  | .ok inventory => .ok (Image.matching (Reference.parse reference) inventory)

def list (reference : String) : Attempt σ (List Image) := do
  let answer ← send t a.list "list"
  match answer.body? with
  | none => throw (Failure.brokenBody.error "daemon request")
  | some body => fun s => (imagesOf reference body, s)

def tag (id reference : String) : Attempt σ Unit := do
  let _ ← send t (a.tag id reference) "tag"

def push (reference : String) (allTags : Bool) (auth : String) (verbose : Bool) :
    Attempt σ Unit := do
  let answer ← send t (a.push reference allTags auth) "push"
  follow t answer verbose

end Client

end RegistrySync.Daemon
