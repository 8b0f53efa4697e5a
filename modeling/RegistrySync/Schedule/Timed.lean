import RegistrySync.Schedule.Interleaving

/-!
The recurring phase in time.

The small steps of the timers and the worker take no time. Time passes between them, but never
beyond an instant at which there is something to do: a tick is due, a task waits for a worker that
is free, a run is over, or the worker waits and a stop is asked for. What there is to do at one
instant is done in any order.
-/

namespace RegistrySync.Schedule.Timed

open Interleaving (Action)

/-- How long things take, in milliseconds. -/
structure Pace where
  /-- From one tick of a task to its next. -/
  interval : Nat → Nat
  /-- From the start of a run to its end. -/
  length : Nat → Nat
  /-- When a stop is asked for. -/
  stop : Nat

/-- The pace of tasks that are all alike. -/
def Pace.uniform (interval length stop : Nat) : Pace :=
  ⟨fun _ => interval, fun _ => length, stop⟩

inductive Event where
  | act (a : Action)
  /-- Milliseconds pass. -/
  | pass (d : Nat)
  deriving DecidableEq, Repr

structure State where
  now : Nat
  /-- When the next tick of a task comes. -/
  due : Nat → Nat
  /-- When the run that was started last is over. -/
  ends : Nat
  rota : Interleaving.State

namespace State

/-- The recurring phase as it begins: the first ticks come at once. -/
def initial (now : Nat) : State := ⟨now, fun _ => now, now, .initial⟩

variable (p : Pace) (n : Nat) (x : State)

/-- Whether it is time for an action. A task is received only if no stop was asked for before. -/
def allows : Action → Bool
  | .raise i | .drop i => x.due i ≤ x.now
  | .receive _ => x.now ≤ p.stop
  | .finish _ => x.ends ≤ x.now
  | .stop => p.stop ≤ x.now
  | .post _ | .start _ => true

/-- What becomes of the times with an action that makes the rota this one. -/
def after (rota : Interleaving.State) : Action → State
  | .raise i | .drop i =>
    { x with due := fun j => if j = i then x.due i + p.interval i else x.due j, rota }
  | .start i => { x with ends := x.now + p.length i, rota }
  | .post _ | .receive _ | .finish _ | .stop => { x with rota }

/-- Whether the worker has nothing to do before `t`. -/
def isWorkerIdle (t : Nat) : Bool :=
  match x.rota.worker with
  | .waiting => x.rota.queue.isEmpty && t ≤ p.stop
  | .received _ => false
  | .running _ => t ≤ x.ends
  | .stopped => true

/-- Whether none of `n` timers has anything to do before `t`. -/
def areTimersIdle (t : Nat) : Bool :=
  (List.range n).all fun i => !x.rota.posting i && t ≤ x.due i

/-- One event among `n` tasks. -/
def event? : Event → Option State
  | .act a => if x.allows p a then (x.rota.act? n a).map fun rota => x.after p rota a else none
  | .pass d =>
    if 0 < d ∧ x.isWorkerIdle p (x.now + d) ∧ x.areTimersIdle n (x.now + d) then
      some { x with now := x.now + d }
    else none

/-- Events one after the other. -/
def run? (x : State) : List Event → Option State
  | [] => some x
  | e :: es => (x.event? p n e).bind fun y => y.run? es

end State

/-- When the runs of a course start that begins at `now`. -/
def starts (now : Nat) : List Event → List Nat
  | [] => []
  | .pass d :: es => starts (now + d) es
  | .act (.start _) :: es => now :: starts now es
  | .act _ :: es => starts now es

end RegistrySync.Schedule.Timed
