import RegistrySync.Daemon.Status
import RegistrySync.Error
import RegistrySync.Json.Document
import RegistrySync.Text.Blank

/-!
What an unsuccessful answer of the daemon means.

The daemon explains itself in a JSON record with a `message`; any other body explains itself.
-/

namespace RegistrySync.Daemon

/-- The explanation in the body of an unsuccessful answer. -/
def explanation (body : String) : String :=
  match Json.ofText body with
  | .error _ => Text.trim body
  | .ok j => ((j.get? "message").bind Json.asText?).getD (Text.trim body)

/-- The error that an unsuccessful answer to an image operation stands for. -/
def refusal (status : Status) (body operation : String) : Error :=
  let why := explanation body
  match status.code with
  | 400 => .daemon ("Bad parameter for " ++ operation ++ ": " ++ why)
  | 401 => .auth ("Unauthorized to " ++ operation ++ ": " ++ why)
  | 403 => .auth ("Forbidden: insufficient permissions to " ++ operation ++ ": " ++ why)
  | 404 => .notFound ("No such image for " ++ operation ++ ": " ++ why)
  | 409 => .daemon ("Conflict during " ++ operation ++ ": " ++ why)
  | 500 => .daemon ("Daemon error during " ++ operation ++ ": " ++ why)
  | 502 | 503 => .daemon ("Daemon unavailable for " ++ operation ++ ": " ++ why)
  | _ => .daemon (operation ++ " failed (status " ++ status.text ++ "): " ++ why)

end RegistrySync.Daemon
