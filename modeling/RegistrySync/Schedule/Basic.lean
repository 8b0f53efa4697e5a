import RegistrySync.PingPolicy
import RegistrySync.Round
import RegistrySync.Schedule.Timer

/-!
When tasks run.

First the daemon is waited for, then each task without an interval runs once, in order. After that
the recurring tasks run one at a time: timers post them to one queue, and whenever no task runs
the first one is taken from it. A request to stop is looked at only between runs, and before the
queue.
-/

namespace RegistrySync

/-- The passing of time in a world, in milliseconds. -/
structure Clock (σ : Type) where
  now : σ → Nat
  /-- Lets time pass up to an instant, or less if a stop is asked for; whether it was. -/
  wait : Nat → σ → Bool × σ

structure Schedule where
  tasks : List Task
  ping : PingPolicy
  deriving DecidableEq, Repr

namespace Schedule

/-- The recurring tasks under way. -/
structure Rota (σ : Type) where
  timers : List Timer
  /-- Indices of the tasks that wait to run. -/
  queue : List Nat
  world : σ

/-- What comes of waiting for the next task. -/
inductive Progress (σ : Type) where
  /-- A task has run. -/
  | ongoing (r : Rota σ)
  /-- A stop was asked for. -/
  | ended (s : σ)

section

variable {σ : Type} (w : World σ) (c : Clock σ)

/-- Works off the ticks up to now. -/
def Rota.deliver (r : Rota σ) : Rota σ :=
  let now := c.now r.world
  { r with
    timers := r.timers.map (·.advance now)
    queue := r.queue ++ posted now r.timers }

/-- Takes the first task off the queue and runs it. -/
def Rota.serve (tasks : List Task) (r : Rota σ) : Rota σ :=
  match r.queue with
  | [] => r
  | i :: queue =>
    let timers := r.timers.modify i Timer.taken
    match tasks[i]? with
    | none => { r with timers, queue }
    | some t => { timers, queue, world := (t.runAndTell w r.world).2 }

def announceWait : StateM σ Unit := do
  w.blank
  w.info "waiting for next sync task..."
  w.blank

/-- The line that ends the recurring phase. -/
def stop (s : σ) : Progress σ := .ended (w.info "shutdown requested" s).2

/-- Waits for a task and runs it. -/
def Rota.step (tasks : List Task) (r : Rota σ) : Progress σ :=
  let s := (announceWait w r.world).2
  let (stopped, s) := c.wait (c.now s) s
  if stopped then stop w s
  else
    let r := Rota.deliver c { r with world := s }
    if r.queue.isEmpty then
      match earliest r.timers with
      | none => .ongoing r
      | some due =>
        let (stopped, s) := c.wait due r.world
        if stopped then stop w s
        else .ongoing (Rota.serve w tasks (Rota.deliver c { r with world := s }))
    else .ongoing (Rota.serve w tasks r)

/-- At most `n` steps, until the end or until `enough`. -/
def Rota.steps (tasks : List Task) (enough : σ → Bool) : Nat → Rota σ → Progress σ
  | 0, r => .ongoing r
  | n + 1, r =>
    if enough r.world then .ongoing r
    else match r.step w c tasks with
      | .ended s => .ended s
      | .ongoing r => r.steps tasks enough n

/-- Waits for the daemon. An answer is not insisted on. -/
def awaitDaemon (p : PingPolicy) : StateM σ Unit := do
  w.blank
  w.info "pinging Docker daemon..."
  let outcome ← (w.ask (.ping p.attempts p.interval)).run
  if !(← w.report outcome) then w.info "ok"

/-- The tasks that run once. -/
def onceOnly (s : Schedule) : List Task := s.tasks.filter fun t => !t.isRecurring

def recurring (s : Schedule) : List Task := s.tasks.filter fun t => t.isRecurring

/-- Everything before the recurring phase. -/
def prelude (s : Schedule) : StateM σ Unit := do
  awaitDaemon w s.ping
  s.onceOnly.forM (Task.runAndTell w)

/-- The recurring phase as it begins. -/
def rota (s : Schedule) (world : σ) : Rota σ :=
  ⟨s.recurring.map fun t => .starting t.interval (c.now world), [], world⟩

/-- The whole run, with at most `n` recurring runs and until `enough`; whether it came to its
end. -/
def run (s : Schedule) (enough : σ → Bool) (n : Nat) (world : σ) : Bool × σ :=
  let world := (s.prelude w world).2
  if s.recurring.isEmpty then (true, (w.info "all done" world).2)
  else match (s.rota c world).steps w c s.recurring enough n with
    | .ended world => (true, (w.info "all done" world).2)
    | .ongoing r => (false, r.world)

end

end Schedule

end RegistrySync
