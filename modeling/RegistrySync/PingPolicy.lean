/-!
How long to wait for a daemon that is still starting.
-/

namespace RegistrySync

structure PingPolicy where
  attempts : Nat
  /-- Milliseconds between attempts. -/
  interval : Nat
  deriving DecidableEq, Repr

/-- Thirty attempts, ten seconds apart. -/
def PingPolicy.patient : PingPolicy := ⟨30, 10000⟩

end RegistrySync
