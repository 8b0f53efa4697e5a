import RegistrySync.Credential
import RegistrySync.Image.Reference
import RegistrySync.Settings.Basic
import RegistrySync.Url.Parse

/-!
What is sent to the daemon.

All requests but the ping go to a versioned path. References are sent as the repository name and
the tag that they are read as.
-/

namespace RegistrySync.Daemon

inductive Method where
  | get
  | post
  deriving DecidableEq, Repr

def Method.name : Method → String
  | .get => "GET"
  | .post => "POST"

structure Request where
  method : Method
  url : Url
  /-- The credential that goes with it. -/
  auth : Option String
  /-- Milliseconds within which the answer has to come. -/
  deadline : Option Nat
  deriving DecidableEq, Repr

/-- How to reach a daemon. -/
structure Access where
  base : Url
  apiVersion : String
  /-- Milliseconds for one ping. -/
  pingTimeout : Nat
  deriving DecidableEq, Repr

/-- Milliseconds for one ping unless others are given. -/
def defaultPingTimeout : Nat := 5000

/-- The version to ask for; an empty one asks for the default. -/
def normalizeVersion (version : String) : String :=
  if version.isEmpty then Settings.defaultApiVersion
  else String.ofList (Text.trimStartBy (· == 'v') version.toList)

namespace Access

/-- The base address without slashes at its end. -/
def root (a : Access) : String := String.ofList (Text.trimEndBy (· == '/') a.base.text.toList)

/-- The address of a path; what follows the base can not make it invalid. -/
def address (a : Access) (path : String) : Url := (Url.parseWeb? (a.root ++ path)).getD a.base

def endpoint (a : Access) (path : String) : Url := a.address ("/v" ++ a.apiVersion ++ path)

def ping (a : Access) : Request := ⟨.get, a.address "/_ping", none, some a.pingTimeout⟩

def pull (a : Access) (reference auth : String) (allTags : Bool) : Request :=
  let r := Reference.parse reference
  let pairs := ("fromImage", r.name) :: if allTags then [] else [("tag", r.tagOrLatest)]
  ⟨.post, (a.endpoint "/images/create").withPairs pairs, some (Credential.headerValue auth), none⟩

def list (a : Access) : Request := ⟨.get, a.endpoint "/images/json", none, none⟩

def tag (a : Access) (id reference : String) : Request :=
  let r := Reference.parse reference
  let url := a.endpoint ("/images/" ++ id ++ "/tag")
  ⟨.post, url.withPairs [("repo", r.name), ("tag", r.tagOrLatest)], none, none⟩

def push (a : Access) (reference : String) (allTags : Bool) (auth : String) : Request :=
  let r := Reference.parse reference
  let url := a.endpoint ("/images/" ++ r.name ++ "/push")
  ⟨.post, url.withPairs (if allTags then [] else [("tag", r.tagOrLatest)]),
    some (Credential.headerValue auth), none⟩

end Access

end RegistrySync.Daemon
