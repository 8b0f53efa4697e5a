import RegistrySync.Schedule.Basic

/-!
The recurring phase in small steps, taken in any order.

Each task has a mark, a timer, and a place in the queue now and then; one worker runs the tasks. A
tick that finds the mark clear sets it, and the timer then has its task to post; a tick that finds
it set is dropped. The worker takes the first task off the queue, clears its mark as it starts the
task, and waits again when the task is finished. It stops only while it waits. The timers do not
see that, so what they still do until they are ended belongs to the course.

`State.act?` says what an action does where it is possible. A course of events is a list of
actions, so that what happened how often, and what before what, is read off the list.
-/

namespace RegistrySync.Schedule.Interleaving

inductive Worker where
  | waiting
  /-- A task is taken off the queue, its mark still set. -/
  | received (i : Nat)
  | running (i : Nat)
  | stopped
  deriving DecidableEq, Repr

inductive Action where
  /-- A tick sets the mark of its task. -/
  | raise (i : Nat)
  /-- A tick finds the mark set. -/
  | drop (i : Nat)
  /-- A timer puts its task at the end of the queue. -/
  | post (i : Nat)
  /-- The worker takes the first task. -/
  | receive (i : Nat)
  /-- The worker clears the mark of the task it took and starts it. -/
  | start (i : Nat)
  | finish (i : Nat)
  | stop
  deriving DecidableEq, Repr

structure State where
  marked : Nat → Bool
  /-- Whether a timer has set the mark and not yet posted the task. -/
  posting : Nat → Bool
  queue : List Nat
  worker : Worker

namespace State

/-- Nothing has happened yet. -/
def initial : State := ⟨fun _ => false, fun _ => false, [], .waiting⟩

/-- A function changed at one place. -/
def put (f : Nat → Bool) (i : Nat) (b : Bool) : Nat → Bool := fun j => if j = i then b else f j

/-- Whether the timer of one of `n` tasks can see a tick. -/
def canTick (n : Nat) (s : State) (i : Nat) : Prop :=
  i < n ∧ s.posting i = false

instance (n : Nat) (s : State) (i : Nat) : Decidable (s.canTick n i) :=
  inferInstanceAs (Decidable (_ ∧ _))

/-- One action among `n` tasks, with a queue of that many places. -/
def act? (n : Nat) (s : State) : Action → Option State
  | .raise i =>
    if s.canTick n i ∧ s.marked i = false then
      some { s with marked := put s.marked i true, posting := put s.posting i true }
    else none
  | .drop i => if s.canTick n i ∧ s.marked i = true then some s else none
  | .post i =>
    if s.posting i = true ∧ s.queue.length < n then
      some { s with posting := put s.posting i false, queue := s.queue ++ [i] }
    else none
  | .receive i =>
    if s.worker = .waiting ∧ s.queue.head? = some i then
      some { s with queue := s.queue.tail, worker := .received i }
    else none
  | .start i =>
    if s.worker = .received i then
      some { s with marked := put s.marked i false, worker := .running i }
    else none
  | .finish i => if s.worker = .running i then some { s with worker := .waiting } else none
  | .stop => if s.worker = .waiting then some { s with worker := .stopped } else none

/-- Actions one after the other. -/
def run? (n : Nat) (s : State) : List Action → Option State
  | [] => some s
  | a :: as => (s.act? n a).bind fun t => t.run? n as

/-- How often a task is on its way: to the queue, in it, or from it. -/
def load (s : State) (i : Nat) : Nat :=
  (s.posting i).toNat + s.queue.count i + (decide (s.worker = .received i)).toNat

@[simp] theorem run?_nil (n : Nat) (s : State) : s.run? n [] = some s := rfl

theorem run?_cons (n : Nat) (s : State) (a : Action) (as : List Action) :
    s.run? n (a :: as) = (s.act? n a).bind fun t => t.run? n as := rfl

theorem run?_append (n : Nat) (s : State) (as bs : List Action) :
    s.run? n (as ++ bs) = (s.run? n as).bind fun t => t.run? n bs := by
  induction as generalizing s with
  | nil => rfl
  | cons a as ih =>
    rw [List.cons_append, run?_cons, run?_cons]
    cases s.act? n a with
    | none => rfl
    | some t => exact ih t

end State

/-- What a rota is in these terms between two runs. -/
def ofRota {σ : Type} (r : Rota σ) : State where
  marked i := (r.timers[i]?).any Timer.isPending
  posting _ := false
  queue := r.queue
  worker := .waiting

end RegistrySync.Schedule.Interleaving
