import RegistrySync.CommandLine.Arguments
import RegistrySync.Daemon.Client
import RegistrySync.Registry.Aws
import RegistrySync.Schedule.Basic
import RegistrySync.Settings.Reading

/-!
A run of the program, from its arguments to its end.

First the arguments are read, then the environment fills in what they leave open, then the settings
are loaded and the address of the daemon is found. Whatever goes wrong on that way ends the run;
after it nothing does.
-/

namespace RegistrySync

open CommandLine (Arguments Refusal)

/-- The world that a daemon and a program for managed registries make up. -/
def World.ofParts {σ τ : Type} (t : Daemon.Transport σ) (a : Daemon.Access)
    (r : Command.Runner τ) (program : String) : World (σ × τ) where
  answer c s :=
    let onDaemon {α : Type} (f : Daemon.Attempt σ α) : Except Error α × σ × τ :=
      let (result, daemon) := f s.1
      (result, daemon, s.2)
    let onProgram {α : Type} (f : Aws.Attempt τ α) : Except Error α × σ × τ :=
      let (result, programs) := f s.2
      (result, s.1, programs)
    match c with
    | .ping attempts interval => onDaemon (Daemon.Client.ping t a attempts interval)
    | .pull reference auth allTags verbose =>
      onDaemon (Daemon.Client.pull t a reference auth allTags verbose)
    | .list reference => onDaemon (Daemon.Client.list t a reference)
    | .tag id reference => onDaemon (Daemon.Client.tag t a id reference)
    | .push reference allTags auth verbose =>
      onDaemon (Daemon.Client.push t a reference allTags auth verbose)
    | .issueLogin region => onProgram (Aws.issueLogin r program region)
    | .ensureRepository identity name =>
      onProgram (Aws.ensureRepository r program identity name)
  print l s := (t.print l s.1, s.2)

namespace Session

/-- The name and the version that the program goes by. -/
def programName : String := "docker-image-syncer"

def programVersion : String := "0.1.0"

/-- What ends a run before it begins. -/
inductive Setback where
  | usage (r : Refusal)
  | arguments (v : CommandLine.Violation)
  | settings (f : Settings.Failure)
  /-- There is no such daemon. -/
  | daemon (e : Error)
  deriving DecidableEq, Repr

def examples : List String := [
  "Examples:",
  "  # Run all tasks of a config file",
  "  docker-image-syncer -c config.yaml",
  "",
  "  # Talk to a docker-in-docker sidecar",
  "  docker-image-syncer -c config.yaml --docker-host tcp://dind:2375",
  "",
  "  # Using environment variables",
  "  export DOCKER_HOST=tcp://127.0.0.1:2375",
  "  export SYNCER_VERBOSE=1",
  "  docker-image-syncer -c config.yaml"]

namespace Setback

/-- The error that a setback is; a wrong usage is none. -/
def error? : Setback → Option Error
  | .usage _ => none
  | .arguments v => some (.config v.message)
  | .settings f => some f.error
  | .daemon e => some e

/-- The status that the program ends with. -/
def exitCode : Setback → Nat
  | .usage .helpWanted => 0
  | .usage .versionWanted => 0
  | .usage _ => 2
  | _ => 1

/-- What the user is told, and where. Of a wrong usage the status tells. -/
def notice (s : Setback) : List (Stream × String) :=
  match s with
  | .usage .versionWanted => [(.out, programName ++ " " ++ programVersion)]
  | .arguments _ => told ++ examples.map (Stream.out, ·)
  | _ => told
where
  told : List (Stream × String) :=
    (s.error?.map fun e => (Stream.err, "Error: " ++ e.message)).toList

end Setback

/-- What there is to do, and the daemon to do it with. -/
structure Plan where
  access : Daemon.Access
  schedule : Schedule
  deriving DecidableEq, Repr

/-- Arguments come before settings, and settings before defaults. -/
def Plan.ofSettings (a : Arguments) (s : Settings) : Except Error Plan := do
  let host := (a.dockerHost <|> s.daemon.host).getD Daemon.defaultHost
  let base ← Daemon.resolveHost host
  let version := Daemon.normalizeVersion (a.apiVersion.getD s.daemon.apiVersion)
  let tasks := s.toTasks.map fun t => { t with verbose := a.verbose || t.verbose }
  return ⟨⟨base, version, Daemon.defaultPingTimeout⟩, ⟨tasks, s.pingPolicy⟩⟩

/-- The plan that the arguments behind the name of the program ask for. -/
def plan (arguments : List String) (environment : String → Option String) (files : Files) :
    Except Setback Plan := do
  let a ← (Arguments.parse arguments).mapError .usage
  let a := a.withEnvironment environment
  if let some v := a.violation then throw (.arguments v)
  let s ← (Settings.load files a.config).mapError .settings
  (Plan.ofSettings a s).mapError .daemon

namespace Plan

variable {σ τ : Type} (p : Plan)

/-- The world of a plan. -/
def world (t : Daemon.Transport σ) (r : Command.Runner τ) : World (σ × τ) :=
  .ofParts t p.access r Aws.defaultProgram

/-- Tells which daemon is used. -/
def announce (w : World σ) : StateM σ Unit :=
  w.info ("using Docker daemon at " ++ p.access.base.text)

/-- Carries out the schedule with at most `n` recurring runs; whether it came to its end. -/
def run (w : World σ) (c : Clock σ) (n : Nat) (s : σ) : Bool × σ :=
  p.schedule.run w c (fun _ => false) n (p.announce w s).2

end Plan

end Session

end RegistrySync
