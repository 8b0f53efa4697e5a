import RegistrySync.World.Basic

/-!
Keeping a record of what the program does to a world: calls before they are answered, and lines; or
calls with what came of them.
-/

namespace RegistrySync

inductive Event where
  | line (l : Line)
  | call (c : Call)
  deriving DecidableEq, Repr

/-- A call and what came of it. -/
structure Exchange where
  call : Call
  outcome : Except Error call.Answer

namespace World

variable {σ : Type}

/-- The world with a record, the latest event first. -/
def recorded (w : World σ) : World (σ × List Event) where
  answer c s :=
    let (r, t) := w.answer c s.1
    (r, t, .call c :: s.2)
  print l s := (w.print l s.1, .line l :: s.2)

/-- The world with a record of when things happened, the latest event first. -/
def stamped (w : World σ) (now : σ → Nat) : World (σ × List (Nat × Event)) where
  answer c s :=
    let (r, t) := w.answer c s.1
    (r, t, (now s.1, .call c) :: s.2)
  print l s := (w.print l s.1, (now s.1, .line l) :: s.2)

/-- The world with a transcript of the calls and their outcomes, in their order. -/
def transcribed (w : World σ) : World (σ × List Exchange) where
  answer c s :=
    let (r, t) := w.answer c s.1
    (r, t, s.2 ++ [⟨c, r⟩])
  print l s := (w.print l s.1, s.2)

end World

namespace Exchange

/-- The error that the call came to, if it failed. -/
def failure? (x : Exchange) : Option Error :=
  match x.outcome with
  | .ok _ => none
  | .error e => some e

/-- The images that the call gave. -/
def images : Exchange → List Image
  | ⟨.list _, .ok images⟩ => images
  | _ => []

end Exchange

/-- The calls among events. -/
def Event.call? : Event → Option Call
  | .call c => some c
  | .line _ => none

end RegistrySync
