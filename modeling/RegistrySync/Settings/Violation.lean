import RegistrySync.Credential
import RegistrySync.Settings.Basic

/-!
Settings that make no sense.

The check goes through the settings in order and tells the first violation. A task is looked at
by itself before its name is compared with the names before it.
-/

namespace RegistrySync.Settings

/-- An end of a task. -/
inductive Side where
  | source
  | target
  deriving DecidableEq, Repr

def Side.name : Side → String
  | .source => "source"
  | .target => "target"

/-- What is wrong with a task by itself. -/
inductive TaskViolation where
  | blankName
  | blankRegistry (side : Side)
  | badCredential (side : Side) (why : Error)
  | noMapping
  | blankTag
  deriving DecidableEq, Repr

inductive Violation where
  | noAttempt
  | noTask
  | task (name : String) (v : TaskViolation)
  | repeatedName (name : String)
  deriving DecidableEq, Repr

def Violation.message : Violation → String
  | .noAttempt => "docker.ping-attempts must be greater than 0"
  | .noTask => "no tasks defined"
  | .repeatedName name => "duplicate task name '" ++ name ++ "'"
  | .task _ .blankName => "task name cannot be empty"
  | .task name (.blankRegistry side) =>
    "task '" ++ name ++ "': " ++ side.name ++ " registry cannot be empty"
  | .task name (.badCredential side why) =>
    "task '" ++ name ++ "': invalid " ++ side.name ++ " auth: " ++ why.message
  | .task name .noMapping => "task '" ++ name ++ "': at least one mapping is required"
  | .task name .blankTag => "task '" ++ name ++ "': tags cannot be empty"

def Violation.error (v : Violation) : Error := .config v.message

/-- What is wrong with one end of a task. -/
def Location.violation (l : Location) (side : Side) : Option TaskViolation :=
  if Text.onlyBlanks l.registry then some (.blankRegistry side)
  else if Text.onlyBlanks l.auth then none
  else match Credential.decode l.auth with
    | .ok _ => none
    | .error why => some (.badCredential side why)

def Task.violation (t : Task) : Option TaskViolation :=
  if Text.onlyBlanks t.name then some .blankName
  else t.source.violation .source <|> t.target.violation .target <|>
    if t.mappings.isEmpty then some .noMapping
    else if t.mappings.any fun m => m.tags.any Text.onlyBlanks then some .blankTag
    else none

/-- The first violation in a list of tasks that follow tasks with the given names. -/
def firstViolation (names : List String) : List Task → Option Violation
  | [] => none
  | t :: rest =>
    match t.violation with
    | some v => some (.task t.name v)
    | none =>
      if names.contains t.name then some (.repeatedName t.name)
      else firstViolation (t.name :: names) rest

def violation (s : Settings) : Option Violation :=
  if s.daemon.pingAttempts = 0 then some .noAttempt
  else if s.tasks.isEmpty then some .noTask
  else firstViolation [] s.tasks

/-! What settings without a violation are like. -/

/-- An end of a task that can be used. -/
structure Location.IsValid (l : Location) : Prop where
  registry : ¬ Text.onlyBlanks l.registry
  auth : Text.onlyBlanks l.auth ∨ ∃ c, Credential.decode l.auth = .ok c

/-- A task that can be used, whatever the others are called. -/
structure Task.IsValid (t : Task) : Prop where
  name : ¬ Text.onlyBlanks t.name
  source : t.source.IsValid
  target : t.target.IsValid
  mappings : t.mappings ≠ []
  tags : ∀ m ∈ t.mappings, ∀ tag ∈ m.tags, ¬ Text.onlyBlanks tag

structure IsValid (s : Settings) : Prop where
  attempts : 0 < s.daemon.pingAttempts
  tasks : s.tasks ≠ []
  distinct : (s.tasks.map Task.name).Nodup
  each : ∀ t ∈ s.tasks, t.IsValid

/-- The settings, unless they have a violation. -/
def check (s : Settings) : Except Error Settings :=
  match s.violation with
  | some v => .error v.error
  | none => .ok s

end RegistrySync.Settings
