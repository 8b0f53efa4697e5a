import RegistrySync.Daemon.Request
import RegistrySync.Daemon.Status
import RegistrySync.Error
import RegistrySync.Log

/-!
How requests reach a daemon, and what can go wrong on the way.

A request with a header or a host that can not be written is not sent at all. Otherwise the daemon
may refuse the connection, let the deadline pass, hang up, or answer; an answer may break off.
-/

namespace RegistrySync.Daemon

/-- An answer: its body in the pieces in which it came. -/
structure Answer where
  status : Status
  chunks : List (List UInt8)
  /-- Whether the body came to its end. -/
  isComplete : Bool
  deriving DecidableEq, Repr

inductive Reply where
  | refused
  | timedOut
  /-- The connection was closed without an answer. -/
  | dropped
  | answered (a : Answer)
  deriving DecidableEq, Repr

structure Transport (σ : Type) where
  send : Request → σ → Reply × σ
  /-- Lets milliseconds pass. -/
  sleep : Nat → σ → σ
  print : Line → σ → σ

/-- A daemon that is not there; lines are kept, the latest first. -/
def Transport.unreachable : Transport (List Line) where
  send _ lines := (.refused, lines)
  sleep _ lines := lines
  print l lines := l :: lines

/-- Why an exchange failed. -/
inductive Failure where
  /-- The request can not be written. -/
  | unwritable (url : Option Url)
  | refused (url : Url)
  | timedOut (url : Url)
  | dropped (url : Url)
  /-- The body broke off. -/
  | brokenBody
  deriving DecidableEq, Repr

def Failure.message : Failure → String
  | .unwritable none => "builder error"
  | .unwritable (some url) => "builder error for url (" ++ url.text ++ ")"
  | .refused url => "error sending request for url (" ++ url.text ++ ")"
  | .timedOut url => "error sending request for url (" ++ url.text ++ ")"
  | .dropped url => "error sending request for url (" ++ url.text ++ ")"
  | .brokenBody => "error decoding response body"

/-- The error that a failure during an activity stands for. A message that speaks of names being
resolved is taken to be about that. -/
def Failure.error (f : Failure) (activity : String) : Error :=
  match f with
  | .timedOut _ => .timeout (activity ++ " timeout: " ++ f.message)
  | .refused _ => .network ("Connection error during " ++ activity ++ ": " ++ f.message)
  | _ =>
    if Text.contains "dns".toList f.message.toList then
      .network ("DNS resolution error for " ++ activity ++ ": " ++ f.message)
    else .network (activity ++ " network error: " ++ f.message)

/-- Whether a character can stand in a header. -/
def isHeaderChar (c : Char) : Bool := c == '\t' || (0x20 ≤ c.toNat && c.toNat != 0x7F)

/-- Whether a host can be written into a request. -/
def isWritableHost (host : String) : Bool :=
  host.toList.all fun c => c ∉ ['"', '\x60', '\x7b', '\x7d']

/-- What keeps a request from being sent, if anything does. -/
def Request.flaw (r : Request) : Option Failure :=
  let url := r.url.withoutUser
  if (r.auth.getD "").toList.all isHeaderChar then
    if isWritableHost url.host then none else some (.unwritable (some url))
  else some (.unwritable none)

/-- The transport without lines. -/
def Transport.quiet {σ : Type} (t : Transport σ) : Transport σ := { t with print := fun _ s => s }

/-- Sends a request. -/
def Transport.exchange {σ : Type} (t : Transport σ) (r : Request) (s : σ) :
    Except Failure Answer × σ :=
  let url := r.url.withoutUser
  match r.flaw with
  | some f => (.error f, s)
  | none =>
    let (reply, s) := t.send { r with url } s
    match reply with
    | .refused => (.error (.refused url), s)
    | .timedOut => (.error (.timedOut url), s)
    | .dropped => (.error (.dropped url), s)
    | .answered a => (.ok a, s)

end RegistrySync.Daemon
