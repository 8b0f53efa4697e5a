/-!
Timers of recurring tasks.

A timer ticks at once and then after every interval. A tick posts its task to the queue unless
the task is still waiting there. Ticks between two looks at the queue are worked off together:
only the first of them can post.
-/

namespace RegistrySync.Schedule

/-- Times are in milliseconds. -/
structure Timer where
  interval : Nat
  /-- When the next tick comes. -/
  due : Nat
  /-- Whether the task is posted and not yet taken. -/
  isPending : Bool
  deriving DecidableEq, Repr

namespace Timer

/-- A timer whose first tick comes at `now`. -/
def starting (interval now : Nat) : Timer := ⟨interval, now, false⟩

/-- The first tick after `now`. -/
def nextDue (t : Timer) (now : Nat) : Nat :=
  if now < t.due then t.due else t.due + t.interval * ((now - t.due) / t.interval + 1)

/-- When a tick up to `now` posts the task, if one does. -/
def posts (t : Timer) (now : Nat) : Option Nat :=
  if t.due ≤ now ∧ ¬ t.isPending then some t.due else none

/-- The timer after all ticks up to `now`. -/
def advance (t : Timer) (now : Nat) : Timer :=
  ⟨t.interval, t.nextDue now, t.isPending || decide (t.due ≤ now)⟩

/-- The timer once its task is taken. -/
def taken (t : Timer) : Timer := { t with isPending := false }

theorem due_lt_nextDue {t : Timer} {now : Nat} (h : 0 < t.interval) : now < t.nextDue now := by
  rw [nextDue]
  split
  · assumption
  · rename_i hd
    have := Nat.div_add_mod (now - t.due) t.interval
    have := Nat.mod_lt (now - t.due) h
    rw [Nat.mul_add, Nat.mul_one]
    omega

end Timer

/-- Puts a post in the order of its time; posts of one time stay in order. -/
def insertPost (p : Nat × Nat) : List (Nat × Nat) → List (Nat × Nat)
  | [] => [p]
  | q :: qs => if p.1 < q.1 then p :: q :: qs else q :: insertPost p qs

/-- The tasks posted up to `now`, by time and then by index; `i` is the index of the first
timer. -/
def postsFrom (now : Nat) : Nat → List Timer → List (Nat × Nat)
  | _, [] => []
  | i, t :: ts =>
    match t.posts now with
    | some time => (time, i) :: postsFrom now (i + 1) ts
    | none => postsFrom now (i + 1) ts

def posted (now : Nat) (timers : List Timer) : List Nat :=
  ((postsFrom now 0 timers).foldl (fun ps p => insertPost p ps) []).map (·.2)

/-- The earliest tick to come. -/
def earliest : List Timer → Option Nat
  | [] => none
  | t :: ts =>
    match earliest ts with
    | none => some t.due
    | some d => some (min t.due d)

end RegistrySync.Schedule
