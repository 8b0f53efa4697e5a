import RegistrySync.Proofs.World.Attempt
import RegistrySync.World.Basic

/-!
What steps in a world keep true of its state.

What every line and every call of some kind keeps, steps made of such lines and calls keep, however
they come out.
-/

namespace RegistrySync.World

variable {σ α β ι : Type} {I : σ → Prop} {P : Call → Prop} {w : World σ}

/-- Lines, and the calls that `P` is true of, keep `I`. -/
structure Maintains (w : World σ) (P : Call → Prop) (I : σ → Prop) : Prop where
  answer : ∀ c s, P c → I s → I (w.answer c s).2
  print : ∀ l s, I s → I (w.print l s)

def Keeps (I : σ → Prop) (f : StateM σ α) : Prop := ∀ s, I s → I (f s).2

namespace Keeps

lemma pure (a : α) : Keeps I (Pure.pure a) := fun _ h => h

lemma bind {f : StateM σ α} {g : α → StateM σ β} (hf : Keeps I f) (hg : ∀ a, Keeps I (g a)) :
    Keeps I (f >>= g) := fun s h => hg (f s).1 _ (hf s h)

lemma say (hw : w.Maintains P I) (l : Level) (m : String) : Keeps I (w.say l m) :=
  fun s h => hw.print ⟨l, m⟩ s h

/-! ### Steps that may fail -/

variable {f : Attempt σ α} {g : α → Attempt σ β}

lemma attempt_bind (hf : Keeps I f.run) (hg : ∀ a, Keeps I (g a).run) :
    Keeps I (f >>= g).run := by
  intro s h
  have hafter : I (f.run s).2 := hf s h
  rw [attempt_run_bind]
  rcases hr : f.run s with ⟨_ | a, after⟩
  all_goals rw [hr] at hafter
  · exact hafter
  · exact hg a after hafter

lemma lift {f : StateM σ α} (hf : Keeps I f) : Keeps I (liftM f : Attempt σ α).run := hf

lemma attempt_forM {f : ι → Attempt σ Unit} (hf : ∀ i, Keeps I (f i).run) (is : List ι) :
    Keeps I (is.forM f).run := by
  induction is with
  | nil => exact pure _
  | cons i is ih => exact attempt_bind (hf i) fun _ => ih

lemma ask (hw : w.Maintains P I) {c : Call} (hc : P c) : Keeps I (w.ask c).run :=
  fun s h => hw.answer c s hc h

lemma askFor (hw : w.Maintains P I) {c : Call} (hc : P c) (meaning : Error → Error) :
    Keeps I (w.askFor c meaning).run :=
  fun s h => hw.answer c s hc h

end Keeps

end RegistrySync.World
