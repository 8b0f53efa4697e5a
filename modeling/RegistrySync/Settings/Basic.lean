import RegistrySync.PingPolicy
import RegistrySync.Schema.Basic
import RegistrySync.Task

/-!
Settings, as they stand in a configuration file, and the tasks they ask for.
-/

namespace RegistrySync

namespace Settings

structure Daemon where
  host : Option String
  apiVersion : String
  pingAttempts : UInt32
  /-- Seconds between attempts. -/
  pingInterval : UInt64
  deriving DecidableEq, Repr

structure Location where
  registry : String
  auth : String
  deriving DecidableEq, Repr

structure Mapping where
  source : String
  target : String
  tags : List String
  deriving DecidableEq, Repr

structure Task where
  name : String
  /-- Seconds between runs, zero for a task that runs once. -/
  interval : UInt64
  verbose : Bool
  source : Location
  target : Location
  mappings : List Mapping
  deriving DecidableEq, Repr

end Settings

structure Settings where
  daemon : Settings.Daemon
  tasks : List Settings.Task
  deriving DecidableEq, Repr

namespace Settings

/-- The version of the daemon's interface that is asked for by default. -/
def defaultApiVersion : String := "1.24"

def Daemon.default : Daemon := ⟨none, defaultApiVersion, 30, 10⟩

/-! The written form. -/

def Daemon.fields : Fields (Option String × String × UInt32 × UInt64 × Unit) :=
  .cons (.optional "host" Daemon.default.host) (.optional .text) <|
    .cons (.optional "api-version" Daemon.default.apiVersion) .text <|
    .cons (.optional "ping-attempts" Daemon.default.pingAttempts) .word32 <|
    .cons (.optional "ping-interval" Daemon.default.pingInterval) .word64 .nil

def Daemon.schema : Schema Daemon :=
  .record "DockerConfig" fields (fun p => ⟨p.1, p.2.1, p.2.2.1, p.2.2.2.1⟩)
    (fun d => (d.host, d.apiVersion, d.pingAttempts, d.pingInterval, ()))

def Location.fields : Fields (String × String × Unit) :=
  .cons (.required "registry") .text <| .cons (.optional "auth" "") .text .nil

def Location.schema : Schema Location :=
  .record "LocationConfig" fields (fun p => ⟨p.1, p.2.1⟩) (fun l => (l.registry, l.auth, ()))

def Mapping.fields : Fields (String × String × List String × Unit) :=
  .cons (.optional "from" "") .text <| .cons (.optional "to" "") .text <|
    .cons (.optional "tags" []) (.list .text) .nil

def Mapping.schema : Schema Mapping :=
  .record "MappingConfig" fields (fun p => ⟨p.1, p.2.1, p.2.2.1⟩)
    (fun m => (m.source, m.target, m.tags, ()))

def Task.fields : Fields (String × UInt64 × Bool × Location × Location × List Mapping × Unit) :=
  .cons (.required "name") .text <| .cons (.optional "interval" 0) .word64 <|
    .cons (.optional "verbose" false) .flag <| .cons (.required "source") Location.schema <|
    .cons (.required "target") Location.schema <|
    .cons (.optional "mappings" []) (.list Mapping.schema) .nil

def Task.schema : Schema Task :=
  .record "TaskConfig" fields
    (fun p => ⟨p.1, p.2.1, p.2.2.1, p.2.2.2.1, p.2.2.2.2.1, p.2.2.2.2.2.1⟩)
    (fun t => (t.name, t.interval, t.verbose, t.source, t.target, t.mappings, ()))

def fields : Fields (Daemon × List Task × Unit) :=
  .cons (.optional "docker" Daemon.default) Daemon.schema <|
    .cons (.optional "tasks" []) (.list Task.schema) .nil

def schema : Schema Settings :=
  .record "SyncConfig" fields (fun p => ⟨p.1, p.2.1⟩) (fun s => (s.daemon, s.tasks, ()))

/-! What the settings ask for. -/

def Location.location (l : Location) : RegistrySync.Location :=
  ⟨Text.trim l.registry, Text.trim l.auth⟩

def Mapping.mapping (m : Mapping) : RegistrySync.Mapping := .ofPaths m.source m.target m.tags

def Task.task (t : Task) : RegistrySync.Task where
  name := t.name
  source := t.source.location
  target := t.target.location
  mappings := t.mappings.map Mapping.mapping
  interval := t.interval.toNat * 1000
  verbose := t.verbose

/-- The tasks, in the order of the settings. -/
def toTasks (s : Settings) : List RegistrySync.Task := s.tasks.map Task.task

def pingPolicy (s : Settings) : PingPolicy :=
  ⟨s.daemon.pingAttempts.toNat, s.daemon.pingInterval.toNat * 1000⟩

end Settings

end RegistrySync
