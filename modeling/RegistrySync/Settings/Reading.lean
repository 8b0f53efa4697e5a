import RegistrySync.Folder
import RegistrySync.Schema.Node
import RegistrySync.Settings.Violation

/-!
Settings from a configuration file.
-/

namespace RegistrySync.Settings

/-- Why there are no settings. -/
inductive Failure where
  | unreadable (path : String) (why : FileFault)
  /-- The text is no document, or no document of settings. -/
  | unfit (why : Yaml.Fault)
  /-- The settings make no sense. -/
  | refused (v : Violation)
  deriving DecidableEq, Repr

def Failure.error : Failure → Error
  | .unreadable path why => .config ("cannot read config file " ++ path ++ ": " ++ why.message)
  | .unfit why => .config why.message
  | .refused v => v.error

/-- The settings that a text holds. -/
def ofText (text : String) : Except Failure Settings := do
  let s ← (schema.ofYaml text).mapError .unfit
  match s.violation with
  | some v => throw (.refused v)
  | none => return s

/-- The settings that a file holds. -/
def load (files : Files) (path : String) : Except Failure Settings := do
  let text ← (files.text path).mapError (.unreadable path)
  ofText text

end RegistrySync.Settings
