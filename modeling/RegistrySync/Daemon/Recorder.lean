import RegistrySync.Daemon.Transport

/-!
Keeping a record of what is done to a daemon: requests as they are sent, waits, and lines.
-/

namespace RegistrySync.Daemon

inductive Deed where
  | request (r : Request)
  /-- Milliseconds that were let pass. -/
  | pause (interval : Nat)
  | line (l : Line)
  deriving DecidableEq, Repr

/-- The transport with a record, the latest deed first. -/
def Transport.recorded {σ : Type} (t : Transport σ) : Transport (σ × List Deed) where
  send r s :=
    let (reply, u) := t.send r s.1
    (reply, u, .request r :: s.2)
  sleep n s := (t.sleep n s.1, .pause n :: s.2)
  print l s := (t.print l s.1, .line l :: s.2)

/-- The requests among deeds. -/
def Deed.request? : Deed → Option Request
  | .request r => some r
  | _ => none

end RegistrySync.Daemon
