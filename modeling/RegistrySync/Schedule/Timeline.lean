import RegistrySync.Schedule.Basic
import RegistrySync.World.Recorder
import RegistrySync.World.Script

/-!
A schedule run against a script, with the time of every event.

Either a stop is asked for at some instant, or the run is given up at one, wherever it then is.
-/

namespace RegistrySync.Schedule

/-- How a run is brought to an end. -/
inductive Horizon where
  | stopAt (time : Nat)
  | giveUpAt (time : Nat)
  deriving DecidableEq, Repr

namespace Horizon

def time : Horizon → Nat
  | .stopAt t => t
  | .giveUpAt t => t

/-- Whether a stop is asked for by `t`. -/
def stopsBy (h : Horizon) (t : Nat) : Bool :=
  match h with
  | .stopAt stop => stop ≤ t
  | .giveUpAt _ => false

/-- Whether a run that has come to `t` is given up. -/
def isGivenUp (h : Horizon) (t : Nat) : Bool :=
  match h with
  | .stopAt _ => false
  | .giveUpAt limit => limit < t

/-- The clock of a script, which waiting moves on. -/
def clock (h : Horizon) : Clock (Script.State × List (Nat × Event)) where
  now s := s.1.time
  wait t s :=
    let target := max s.1.time t
    if h.stopsBy target then (true, { s.1 with time := max s.1.time h.time }, s.2)
    else (false, { s.1 with time := target }, s.2)

end Horizon

/-- What became of a run. -/
structure Account where
  /-- Events in their order, with their times. -/
  events : List (Nat × Event)
  finished : Bool
  time : Nat

/-- The run of a schedule, lines included unless `quiet`. -/
def account (s : Schedule) (script : Script) (quiet : Bool) (h : Horizon) : Account :=
  let w := script.world.stamped (·.time)
  let w := if quiet then w.quiet else w
  let rounds := s.recurring.length * (h.time + 2)
  let (finished, state) :=
    s.run w h.clock (fun s => h.isGivenUp s.1.time) rounds (Script.start, [])
  let events := state.2.reverse
  match h with
  | .stopAt _ => ⟨events, finished, state.1.time⟩
  | .giveUpAt limit =>
    if finished ∧ state.1.time ≤ limit then ⟨events, true, state.1.time⟩
    else ⟨events.filter fun e => e.1 ≤ limit, false, limit⟩

end RegistrySync.Schedule
