/-!
What can go wrong, by where it went wrong, and how it reads.
-/

namespace RegistrySync

inductive Error where
  /-- Invalid or unreadable settings. -/
  | config (detail : String)
  /-- The daemon refused a request or reported an error. -/
  | daemon (detail : String)
  | network (detail : String)
  /-- A network call took longer than it may. -/
  | timeout (detail : String)
  | auth (detail : String)
  /-- The service behind a managed registry failed. -/
  | managedRegistry (detail : String)
  | pull (reference reason : String)
  | tag (detail : String)
  | push (detail : String)
  | io (detail : String)
  | parse (detail : String)
  | notFound (detail : String)
  deriving DecidableEq, Repr

def Error.message : Error → String
  | .config d => "Configuration error: " ++ d
  | .daemon d => "Daemon error: " ++ d
  | .network d => "Network error: " ++ d
  | .timeout d => "Timeout: " ++ d
  | .auth d => "Authentication error: " ++ d
  | .managedRegistry d => "Managed registry error: " ++ d
  | .pull reference reason =>
    "error pulling source image '" ++ reference ++ "': " ++ reason
  | .tag d => "error setting tags: " ++ d
  | .push d => "error pushing target image: " ++ d
  | .io d => "IO error: " ++ d
  | .parse d => "Parse error: " ++ d
  | .notFound d => "Not found: " ++ d

end RegistrySync
