import RegistrySync.Image.Reference
import RegistrySync.Registry.Identity

/-!
Where images are kept: a registry endpoint with the credential configured for it.
-/

namespace RegistrySync

structure Location where
  registry : String
  /-- Encoded credential, empty for anonymous access. -/
  auth : String
  deriving DecidableEq, Repr

/-- How a registry is treated. -/
inductive Location.Kind where
  /-- The configured credential is all there is. -/
  | plain
  /-- Credentials are issued, and repositories have to be created. -/
  | managed (identity : Identity)
  deriving DecidableEq, Repr

namespace Location

def kind (l : Location) : Kind :=
  match Identity.parse l.registry with
  | some identity => .managed identity
  | none => .plain

/-- The host of the endpoint, which its credentials are for. -/
def serverAddress (l : Location) : String :=
  let (repo, path) := Reference.split l.registry
  if repo.isEmpty then path else repo

theorem kind_eq_managed_iff {l : Location} {identity : Identity} :
    l.kind = .managed identity ↔ Identity.parse l.registry = some identity := by
  rw [kind]
  split
  · rename_i i h
    rw [h]
    exact ⟨fun e => by cases e; rfl, fun e => by cases e; rfl⟩
  · rename_i h
    rw [h]
    exact ⟨nofun, nofun⟩

theorem kind_eq_plain_iff {l : Location} : l.kind = .plain ↔ Identity.parse l.registry = none := by
  rw [kind]
  split
  · rename_i h
    rw [h]
    exact ⟨nofun, nofun⟩
  · rename_i h
    rw [h]
    exact ⟨fun _ => rfl, fun _ => rfl⟩

end Location

end RegistrySync
