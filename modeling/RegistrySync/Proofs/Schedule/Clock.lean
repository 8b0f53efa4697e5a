import RegistrySync.Proofs.Schedule.Process

/-!
Courses that keep to a clock.

Nothing but the clock tells whether a stop is asked for. The program looks at it each time it begins
to wait, before it looks at the queue, and again when it has waited for a tick. As long as the clock
says no, the course goes on from the state that the clock leaves. When it says yes, the program stops
there and then.
-/

namespace RegistrySync.Schedule.Process

def Move.isTimed {σ : Type} : Move σ → Bool
  | .announce | .elapse _ | .request => true
  | _ => false

variable {σ : Type} {w : World σ} {c : Clock σ} {s : Schedule} {x y z : State σ} {m : Move σ}
  {ms ns : List (Move σ)} {u : σ} {t : ℕ}

/-- A course in which the clock says no each time. -/
inductive Follows (w : World σ) (c : Clock σ) (s : Schedule) :
    State σ → List (Move σ) → State σ → Prop where
  | refl (x : State σ) : Follows w c s x [] x
  | move {x y z : State σ} {m : Move σ} {ms : List (Move σ)} (hm : m.isTimed = false)
      (h : x.move? w s m = some y) (hrest : Follows w c s y ms z) : Follows w c s x (m :: ms) z
  /-- The program says that it waits, and looks whether a stop is asked for by now. -/
  | look {x y z : State σ} {u : σ} {ms : List (Move σ)} (h : x.move? w s .announce = some y)
      (hno : c.wait (c.now y.world) y.world = (false, u))
      (hrest : Follows w c s { y with world := u } ms z) :
    Follows w c s x (.announce :: .elapse u :: ms) z
  | wait {x z : State σ} {t : ℕ} {u : σ} {ms : List (Move σ)} (hwaits : x.isWaiting = true)
      (hno : c.wait t x.world = (false, u)) (hrest : Follows w c s { x with world := u } ms z) :
    Follows w c s x (.elapse u :: ms) z

/-- How the program ends where the clock says that a stop is asked for. -/
def stopping : List (Move σ) := [.request, .inner .stop, .leave, .conclude]

/-- A course in which the clock says yes the first time. -/
inductive Stops (w : World σ) (c : Clock σ) (s : Schedule) (x : State σ) :
    List (Move σ) → State σ → Prop where
  | look {y z : State σ} {u : σ} (h : x.move? w s .announce = some y)
      (hyes : c.wait (c.now y.world) y.world = (true, u))
      (hz : State.run? w s { y with world := u } stopping = some z) :
    Stops w c s x (.announce :: .elapse u :: stopping) z
  | wait {z : State σ} {t : ℕ} {u : σ} (hwaits : x.isWaiting = true)
      (hyes : c.wait t x.world = (true, u))
      (hz : State.run? w s { x with world := u } stopping = some z) :
    Stops w c s x (.elapse u :: stopping) z

/-- A course that keeps to the clock: it goes on while the clock says no, and it ends with the first
time that the clock says yes, if there is one. -/
inductive KeepsToClock (w : World σ) (c : Clock σ) (s : Schedule) (x : State σ) :
    List (Move σ) → State σ → Prop where
  | unasked {y : State σ} {ms : List (Move σ)} (h : Follows w c s x ms y) :
    KeepsToClock w c s x ms y
  | asked {y z : State σ} {ms ns : List (Move σ)} (h : Follows w c s x ms y)
      (hstop : Stops w c s y ns z) : KeepsToClock w c s x (ms ++ ns) z

lemma State.isWaiting_of_announce (h : x.move? w s .announce = some y) : y.isWaiting = true := by
  cases step_of_move h with
  | announce hplace hw => exact isWaiting_iff.2 ⟨hplace, hw, rfl⟩

lemma State.run?_elapse (hwaits : x.isWaiting = true) (u : σ) (ms : List (Move σ)) :
    x.run? w s (.elapse u :: ms) = State.run? w s { x with world := u } ms := by
  have hmove : x.move? w s (.elapse u) = some { x with world := u } := if_pos hwaits
  rw [run?_cons, hmove, Option.bind_some]

lemma State.run?_look (h : x.move? w s .announce = some y) (u : σ) (ms : List (Move σ)) :
    x.run? w s (.announce :: .elapse u :: ms) = State.run? w s { y with world := u } ms := by
  rw [run?_cons, h, Option.bind_some, run?_elapse (isWaiting_of_announce h)]

namespace Follows

lemma trans (h : Follows w c s x ms y) (h' : Follows w c s y ns z) :
    Follows w c s x (ms ++ ns) z := by
  induction h with
  | refl => exact h'
  | move hm hmove _ ih => exact .move hm hmove (ih h')
  | look hmove hno _ ih => exact .look hmove hno (ih h')
  | wait hwaits hno _ ih => exact .wait hwaits hno (ih h')

lemma of_run (hms : ∀ m ∈ ms, m.isTimed = false) (h : x.run? w s ms = some y) :
    Follows w c s x ms y := by
  induction ms generalizing x with
  | nil =>
    cases h
    exact .refl y
  | cons m ms ih =>
    obtain ⟨hm, hms⟩ := List.forall_mem_cons.1 hms
    obtain ⟨x', hmove, h⟩ := Option.bind_eq_some_iff.1 h
    exact .move hm hmove (ih hms h)

lemma run? (h : Follows w c s x ms y) : x.run? w s ms = some y := by
  induction h with
  | refl => rfl
  | move _ hmove _ ih => rw [State.run?_cons, hmove, Option.bind_some, ih]
  | look hmove _ _ ih => rw [State.run?_look hmove, ih]
  | wait hwaits _ _ ih => rw [State.run?_elapse hwaits, ih]

end Follows

lemma Stops.run? (h : Stops w c s x ms y) : x.run? w s ms = some y := by
  cases h with
  | look hmove _ hz => rw [State.run?_look hmove, hz]
  | wait hwaits _ hz => rw [State.run?_elapse hwaits, hz]

lemma KeepsToClock.run? (h : KeepsToClock w c s x ms y) : x.run? w s ms = some y := by
  cases h with
  | unasked h => exact h.run?
  | asked h hstop => rw [State.run?_append, h.run?, Option.bind_some, hstop.run?]

end RegistrySync.Schedule.Process
