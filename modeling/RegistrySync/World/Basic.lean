import RegistrySync.Credential
import RegistrySync.Image.Basic
import RegistrySync.Log
import RegistrySync.Registry.Identity

/-!
The world as the program sees it: something that answers calls and takes lines for the user.

An answer may depend on all that happened before, which the state of the world stands for; nothing
else is known of that state.
-/

namespace RegistrySync

/-- What the program can ask for. -/
inductive Call where
  /-- Whether the daemon is there, asked up to `attempts` times, `interval` milliseconds apart. -/
  | ping (attempts interval : Nat)
  | pull (reference auth : String) (allTags verbose : Bool)
  /-- The images present locally under a reference. -/
  | list (reference : String)
  /-- A further name for the image with this id. -/
  | tag (id reference : String)
  | push (reference : String) (allTags : Bool) (auth : String) (verbose : Bool)
  /-- A login for the managed registries of a region. -/
  | issueLogin (region : String)
  /-- A repository of a managed registry, created unless it is there. -/
  | ensureRepository (identity : Identity) (name : String)
  deriving DecidableEq, Repr

/-- What a call that succeeds gives. -/
def Call.Answer : Call → Type
  | .list _ => List Image
  | .issueLogin _ => Login
  | _ => Unit

structure World (σ : Type) where
  answer : (c : Call) → σ → Except Error c.Answer × σ
  print : Line → σ → σ

namespace World

variable {σ : Type}

/-- Steps in a world, which may fail. -/
abbrev Attempt (σ α : Type) : Type := ExceptT Error (StateM σ) α

def ask (w : World σ) (c : Call) : Attempt σ c.Answer := w.answer c

/-- Asks, and gives a failure another meaning. -/
def askFor (w : World σ) (c : Call) (meaning : Error → Error) : Attempt σ c.Answer :=
  fun s =>
    let (r, s) := w.answer c s
    (r.mapError meaning, s)

def say (w : World σ) (level : Level) (message : String) : StateM σ Unit :=
  modify (w.print ⟨level, message⟩)

def info (w : World σ) (message : String) : StateM σ Unit := w.say .info message

/-- A line that sets apart what follows. -/
def blank (w : World σ) : StateM σ Unit := w.info ""

/-- Tells of a failure; whether there was one. -/
def report {α : Type} (w : World σ) (outcome : Except Error α) : StateM σ Bool :=
  match outcome with
  | .ok _ => pure false
  | .error e => do
    w.say .error e.message
    return true

/-- The world without lines. -/
def quiet (w : World σ) : World σ := { w with print := fun _ s => s }

end World

end RegistrySync
