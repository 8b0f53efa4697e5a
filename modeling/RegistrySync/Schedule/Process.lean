import RegistrySync.Schedule.Interleaving

/-!
A whole schedule in small steps, taken in any order.

The program waits for the daemon, runs the tasks without an interval and then, if there are others,
starts a timer for each of these and works off the queue as `Interleaving` has it. A stop can be
asked for at any time. The program looks at that only where it waits for the next task, and there
before it looks at the queue. It would also leave a closed queue, one that is empty and has no timer
left that could post to it. What a run does to the world is done when the run is finished; what
happens between its beginning and its end does not touch it.
-/

namespace RegistrySync.Schedule.Process

/-- Where the program is. -/
inductive Place where
  | opening
  /-- Between two of the tasks that run once; those that are left. -/
  | between (left : List Task)
  | within (t : Task) (left : List Task)
  /-- Among the recurring tasks, where the worker tells more. -/
  | recurring
  | closing
  | over
  deriving DecidableEq, Repr

inductive Move (σ : Type) where
  | awaitDaemon
  | begin (t : Task)
  | complete (t : Task)
  /-- The timers are started. -/
  | enter
  /-- The program says that it waits. -/
  | announce
  /-- A timer or the worker does something. -/
  | inner (a : Interleaving.Action)
  /-- The worker leaves a closed queue. -/
  | close
  | endTimer (i : Nat)
  /-- There is nothing left to do. -/
  | leave
  | conclude
  /-- A stop is asked for. -/
  | request
  /-- Time passes while the program waits. -/
  | elapse (world : σ)

structure State (σ : Type) where
  place : Place
  rota : Interleaving.State
  /-- Whether the program has said that it waits. -/
  isAnnounced : Bool
  /-- Whether a timer is ended. -/
  isEnded : Nat → Bool
  /-- Whether a stop was asked for. -/
  isAsked : Bool
  world : σ

namespace State

variable {σ : Type} (w : World σ) (s : Schedule) (x : State σ)

/-- Nothing has happened yet. -/
def initial (world : σ) : State σ := ⟨.opening, .initial, false, fun _ => false, false, world⟩

/-- The queue is empty, and no timer can post to it. -/
def isClosed : Bool :=
  x.rota.queue.isEmpty && (List.range s.recurring.length).all x.isEnded

/-- Whether the program waits for the next task. -/
def isWaiting : Bool := x.place = .recurring && x.rota.worker = .waiting && x.isAnnounced

/-- What an action needs besides what the timers and the worker need for it. -/
def permits : Interleaving.Action → Bool
  | .raise i => !x.isEnded i
  | .drop i => !x.isEnded i
  | .post i => !x.isEnded i
  | .receive _ => x.isWaiting && !x.isAsked
  | .stop => x.isWaiting && x.isAsked
  | _ => true

/-- The state after an action that has brought the timers and the worker where they are now. -/
def after (rota : Interleaving.State) : Interleaving.Action → State σ
  | .finish i =>
    { x with
      rota
      isAnnounced := false
      world := match s.recurring[i]? with
        | some t => (t.runAndTell w x.world).2
        | none => x.world }
  | .stop => { x with rota, world := (w.info "shutdown requested" x.world).2 }
  | _ => { x with rota }

/-- One move, where it is possible. -/
def move? : Move σ → Option (State σ)
  | .awaitDaemon =>
    if x.place = .opening then
      some { x with place := .between s.onceOnly, world := (Schedule.awaitDaemon w s.ping x.world).2 }
    else none
  | .begin t =>
    match x.place with
    | .between (u :: left) => if u = t then some { x with place := .within t left } else none
    | _ => none
  | .complete t =>
    match x.place with
    | .within u left =>
      if u = t then some { x with place := .between left, world := (t.runAndTell w x.world).2 }
      else none
    | _ => none
  | .enter =>
    if x.place = .between [] ∧ s.recurring ≠ [] then
      some { x with
        place := .recurring, rota := .initial, isAnnounced := false, isEnded := fun _ => false }
    else none
  | .announce =>
    if x.place = .recurring ∧ x.rota.worker = .waiting ∧ x.isAnnounced = false then
      some { x with isAnnounced := true, world := (announceWait w x.world).2 }
    else none
  | .inner a =>
    if x.place = .recurring ∧ x.permits a = true then
      (x.rota.act? s.recurring.length a).map fun rota => x.after w s rota a
    else none
  | .close =>
    if x.isWaiting = true ∧ x.isAsked = false ∧ x.isClosed s = true then
      some { x with rota := { x.rota with worker := .stopped } }
    else none
  | .endTimer i =>
    if x.place = .recurring ∧ x.rota.worker = .stopped then
      some { x with isEnded := Interleaving.State.put x.isEnded i true }
    else none
  | .leave =>
    if x.place = .recurring ∧ x.rota.worker = .stopped ∨
        x.place = .between [] ∧ s.recurring = [] then
      some { x with place := .closing }
    else none
  | .conclude =>
    if x.place = .closing then
      some { x with place := .over, world := (w.info "all done" x.world).2 }
    else none
  | .request => if x.isAsked = false then some { x with isAsked := true } else none
  | .elapse world => if x.isWaiting = true then some { x with world } else none

/-- Moves one after the other. -/
def run? (x : State σ) : List (Move σ) → Option (State σ)
  | [] => some x
  | m :: ms => (x.move? w s m).bind fun y => y.run? ms

@[simp] theorem run?_nil : x.run? w s [] = some x := rfl

theorem run?_cons (m : Move σ) (ms : List (Move σ)) :
    x.run? w s (m :: ms) = (x.move? w s m).bind fun y => y.run? w s ms := rfl

theorem run?_append (ms ns : List (Move σ)) :
    x.run? w s (ms ++ ns) = (x.run? w s ms).bind fun y => y.run? w s ns := by
  induction ms generalizing x with
  | nil => rfl
  | cons m ms ih =>
    rw [List.cons_append, run?_cons, run?_cons]
    cases x.move? w s m with
    | none => rfl
    | some y => exact ih y

end State

namespace Move

variable {σ : Type} (s : Schedule)

/-- The task that a move begins to run, if there is one. -/
def begun : Move σ → List Task
  | .begin t => [t]
  | .inner (.start i) => s.recurring[i]?.toList
  | _ => []

/-- The task that a move ends the run of, if there is one. -/
def completed : Move σ → List Task
  | .complete t => [t]
  | .inner (.finish i) => s.recurring[i]?.toList
  | _ => []

end Move

/-- The tasks that begin to run in a course, in their order. -/
def begun {σ : Type} (s : Schedule) (ms : List (Move σ)) : List Task := ms.flatMap (Move.begun s)

/-- The tasks that have run to their end in a course, in their order. -/
def completed {σ : Type} (s : Schedule) (ms : List (Move σ)) : List Task :=
  ms.flatMap (Move.completed s)

end RegistrySync.Schedule.Process
