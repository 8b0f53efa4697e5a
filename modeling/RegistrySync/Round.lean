import RegistrySync.Task
import RegistrySync.Transfer

/-!
One run of a task: a transfer for each mapping, one after the other.

Every mapping gets its own credentials. A managed registry issues a new login each time, and where
it can not, the configured credential is used. No failure keeps the mappings after it from being
tried.
-/

namespace RegistrySync

variable {σ : Type} (w : World σ)

/-- The credential to use at a location: a new one where the registry issues them. -/
def Location.refresh (l : Location) : World.Attempt σ String :=
  match l.kind with
  | .plain => pure l.auth
  | .managed identity => do
    let login : Login ← w.ask (.issueLogin identity.region)
    return (Credential.ofLogin login l.serverAddress).encode

/-- The credential to use at a location, the configured one if there is no new one. -/
def Location.credential (l : Location) : StateM σ String := do
  match ← (l.refresh w).run with
  | .ok credential => return credential
  | .error e =>
    w.say .error ("cannot refresh credential for '" ++ l.registry ++ "': " ++ e.message)
    return l.auth

/-- Creates the repository of a reference where the registry wants that. -/
def Location.ensure (l : Location) (reference : String) : World.Attempt σ Unit :=
  match l.kind with
  | .plain => pure ()
  | .managed identity =>
    let path := (Reference.split reference).2
    if path.isEmpty then pure () else w.ask (.ensureRepository identity path)

namespace Task

/-- The transfer of a mapping with the given credentials. -/
def transfer (t : Task) (m : Mapping) (sourceAuth targetAuth : String) : Transfer where
  source := (t.refs m).1
  sourceAuth := sourceAuth
  target := (t.refs m).2
  targetAuth := targetAuth
  tags := m.tags
  verbose := t.verbose

/-- Runs one mapping; whether its transfer failed. -/
def runMapping (t : Task) (m : Mapping) : StateM σ Bool := do
  w.info ("mapping '" ++ m.source ++ "' to '" ++ m.target ++ "'")
  let sourceAuth ← t.source.credential w
  let targetAuth ← t.target.credential w
  let ensured ← (t.target.ensure w (t.refs m).2).run
  let _ ← w.report ensured
  let outcome ← ((t.transfer m sourceAuth targetAuth).run w).run
  w.report outcome

/-- Runs mappings in order; how many failed. -/
def runMappings (t : Task) : List Mapping → StateM σ Nat
  | [] => pure 0
  | m :: ms => do
    let failed ← t.runMapping w m
    let more ← runMappings t ms
    return (if failed then 1 else 0) + more

/-- Runs a task; how many of its mappings failed. -/
def run (t : Task) : StateM σ Nat := do
  w.info ("syncing task '" ++ t.name ++ "': '" ++ t.source.registry ++ "' --> '" ++
    t.target.registry ++ "'")
  let failed ← t.runMappings w t.mappings
  w.blank
  return failed

/-- Runs a task and sums it up. -/
def runAndTell (t : Task) : StateM σ Unit := do
  let failed ← t.run w
  if failed = 0 then w.info ("task '" ++ t.name ++ "' done")
  else
    w.say .warn ("task '" ++ t.name ++ "' finished with " ++ toString failed ++
      " failed mapping(s)")

end Task

end RegistrySync
