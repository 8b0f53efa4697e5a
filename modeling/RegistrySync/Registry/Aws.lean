import RegistrySync.Command.Basic
import RegistrySync.Credential
import RegistrySync.Registry.Identity
import RegistrySync.Text.Cut

/-!
Managed registries, reached through the `aws` program.

A repository is taken to be missing when the message of a failed run names the exception that the
service reports for that.
-/

namespace RegistrySync.Aws

open Command

variable {σ : Type} (r : Runner σ) (program : String)

/-- The program used by default. -/
def defaultProgram : String := "aws"

def missingRepository : String := "RepositoryNotFoundException"

abbrev Attempt (σ α : Type) : Type := ExceptT Error (StateM σ) α

/-- What a finished run means: its output, if it went well and that is text. -/
def verdict (arguments : List String) (f : Finished) : Except Error String :=
  if f.exit.isSuccess then
    match Text.Utf8.decode f.output with
    | .ok s => .ok s
    | .error fault => .error (.parse ("UTF-8 conversion error: " ++ fault.message))
  else
    .error (.managedRegistry ("'" ++ program ++ " " ++ Text.joinWith " " arguments ++ "' failed (" ++
      f.exit.text ++ "): " ++ Text.trim (Text.Utf8.decodeLossy f.errorOutput)))

def run (arguments : List String) : Attempt σ String := fun s =>
  match r.run program arguments s with
  | (.notStarted why, s) =>
    (.error (.managedRegistry ("cannot run '" ++ program ++ "': " ++ why)), s)
  | (.finished f, s) => (verdict program arguments f, s)

/-- Whether an error says that a repository is missing. -/
def isMissingRepository : Error → Bool
  | .managedRegistry message => Text.contains missingRepository.toList message.toList
  | _ => false

def issueLogin (region : String) : Attempt σ Login := do
  let output ← run r program ["ecr", "get-login-password", "--region", region]
  let password := Text.trim output
  if password.isEmpty then
    throw (.managedRegistry ("empty authorization token for region '" ++ region ++ "'"))
  return ⟨"AWS", password⟩

/-- Arguments that name a repository. -/
def onRepository (verb : String) (i : Identity) (option name : String) : List String :=
  ["ecr", verb, "--region", i.region, "--registry-id", i.account, option, name]

/-- Creates a repository unless it is there. -/
def ensureRepository (i : Identity) (name : String) : Attempt σ Unit := fun s =>
  match run r program (onRepository "describe-repositories" i "--repository-names" name) s with
  | (.ok _, s) => (.ok (), s)
  | (.error e, s) =>
    if isMissingRepository e then
      let (created, s) :=
        run r program (onRepository "create-repository" i "--repository-name" name) s
      (created.map fun _ => (), s)
    else (.error e, s)

/-- Removes a repository; one that is missing counts as removed. -/
def deleteRepository (region name : String) (force : Bool) : Attempt σ Unit := fun s =>
  let arguments := ["ecr", "delete-repository", "--region", region, "--repository-name", name] ++
    if force then ["--force"] else []
  match run r program arguments s with
  | (.ok _, s) => (.ok (), s)
  | (.error e, s) => if isMissingRepository e then (.ok (), s) else (.error e, s)

end RegistrySync.Aws
