import RegistrySync.Error
import RegistrySync.Text.Blank
import RegistrySync.Url.Parse

/-!
Where the daemon is.

An address may be written with the scheme `tcp`, with a web scheme, or with none. Sockets of the
machine are known and refused.
-/

namespace RegistrySync.Daemon

open Text

/-- The address used when none is given. -/
def defaultHost : String := "tcp://127.0.0.1:2375"

/-- An address with its scheme made explicit. -/
def withScheme (host : String) : String :=
  match stripLead "tcp://".toList host.toList with
  | some rest => "http://" ++ String.ofList rest
  | none => if contains "://".toList host.toList then host else "http://" ++ host

def socketRefusal (host : String) : Error :=
  .config ("cannot create Docker client for '" ++ host ++
    "': socket transports are not supported, expose the daemon via tcp://")

def schemeRefusal (scheme host : String) : Error :=
  .config ("cannot create Docker client: unsupported scheme '" ++ scheme ++ "' in '" ++ host ++ "'")

/-- The web address that a daemon address stands for. -/
def resolveHost (host : String) : Except Error Url :=
  let host := trim host
  let host := if host.isEmpty then defaultHost else host
  match Url.parse (withScheme host) with
  | .error f => .error (.config f.message)
  | .ok (.web u) => .ok u
  | .ok (.foreign scheme) =>
    if scheme = "unix" ∨ scheme = "npipe" then .error (socketRefusal host)
    else .error (schemeRefusal scheme host)

end RegistrySync.Daemon
