import RegistrySync.Daemon.Transport

/-!
A daemon whose lines for the user are written by a logger.

All that is written is kept, in its order, with the stream to which it goes.
-/

namespace RegistrySync.Daemon

/-- The transport with a logger. Each line is written at the time that it is then. -/
def Transport.onConsole {σ : Type} (t : Transport σ) (g : Logger) (now : σ → Time.Instant) :
    Transport (σ × List (Stream × String)) where
  send r s :=
    let (reply, u) := t.send r s.1
    (reply, u, s.2)
  sleep n s := (t.sleep n s.1, s.2)
  print l s := (t.print l s.1, s.2 ++ (g.write l (now s.1)).toList)

/-- The text that was written to a stream. -/
def printed (stream : Stream) (written : List (Stream × String)) : List Char :=
  (written.filter (·.1 = stream)).flatMap fun w => w.2.toList

end RegistrySync.Daemon
