import RegistrySync.Proofs.World.Attempt
import RegistrySync.World.Recorder

/-!
Worlds with more in their state.

A world that keeps a record beside its state answers as the world without the record, and steps in
it come out the same and leave the same state behind, whatever the steps are made of.
-/

namespace RegistrySync.World

variable {σ τ α β : Type} {π : τ → σ} {v : World τ} {w : World σ}

/-- What `π` shows of the states of `v` is the world `w`. -/
structure Extends (π : τ → σ) (v : World τ) (w : World σ) : Prop where
  answer : ∀ c s, w.answer c (π s) = ((v.answer c s).1, π (v.answer c s).2)
  print : ∀ l s, w.print l (π s) = π (v.print l s)

lemma transcribed_extends (w : World σ) : Extends Prod.fst w.transcribed w :=
  ⟨fun _ _ => rfl, fun _ _ => rfl⟩

/-- As far as `π` shows, `f` does what `g` does. -/
def Tracks (π : τ → σ) (f : StateM τ α) (g : StateM σ α) : Prop :=
  ∀ s, g (π s) = ((f s).1, π (f s).2)

namespace Tracks

lemma pure (a : α) : Tracks π (Pure.pure a) (Pure.pure a) := fun _ => rfl

lemma bind {f : StateM τ α} {g : StateM σ α} {f' : α → StateM τ β} {g' : α → StateM σ β}
    (h : Tracks π f g) (h' : ∀ a, Tracks π (f' a) (g' a)) : Tracks π (f >>= f') (g >>= g') := by
  intro s
  have hb : (g >>= g') (π s) = g' (g (π s)).1 (g (π s)).2 := rfl
  rw [hb, h s]
  exact h' _ _

lemma say (hv : Extends π v w) (l : Level) (m : String) :
    Tracks π (v.say l m) (w.say l m) := by
  intro s
  have hp : w.say l m (π s) = ((), w.print ⟨l, m⟩ (π s)) := rfl
  rw [hp, hv.print]
  rfl

/-! ### Steps that may fail -/

section

variable {f : Attempt τ α} {g : Attempt σ α} {f' : α → Attempt τ β} {g' : α → Attempt σ β}

lemma attempt_pure (a : α) :
    Tracks π (Pure.pure a : Attempt τ α).run (Pure.pure a : Attempt σ α).run := fun _ => rfl

lemma attempt_bind (h : Tracks π f.run g.run) (h' : ∀ a, Tracks π (f' a).run (g' a).run) :
    Tracks π (f >>= f').run (g >>= g').run := by
  intro s
  rw [attempt_run_bind, attempt_run_bind, h s]
  rcases f.run s with ⟨e | a, after⟩
  · rfl
  · exact h' a after

lemma lift {f : StateM τ α} {g : StateM σ α} (h : Tracks π f g) :
    Tracks π (liftM f : Attempt τ α).run (liftM g : Attempt σ α).run := by
  intro s
  have hg : (liftM g : Attempt σ α).run (π s) = (.ok (g (π s)).1, (g (π s)).2) := rfl
  rw [hg, h s]
  rfl

lemma attempt_forM {ι : Type} {f : ι → Attempt τ Unit} {g : ι → Attempt σ Unit}
    (h : ∀ i, Tracks π (f i).run (g i).run) (is : List ι) :
    Tracks π (is.forM f).run (is.forM g).run := by
  induction is with
  | nil => exact attempt_pure ()
  | cons i is ih => exact attempt_bind (h i) fun _ => ih

lemma ask (hv : Extends π v w) (c : Call) : Tracks π (v.ask c).run (w.ask c).run :=
  hv.answer c

lemma askFor (hv : Extends π v w) (c : Call) (meaning : Error → Error) :
    Tracks π (v.askFor c meaning).run (w.askFor c meaning).run := by
  intro s
  have hg : (w.askFor c meaning).run (π s) =
    ((w.answer c (π s)).1.mapError meaning, (w.answer c (π s)).2) := rfl
  rw [hg, hv.answer]
  rfl

end

end Tracks

end RegistrySync.World
