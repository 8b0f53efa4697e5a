import Mathlib.Tactic.Lemma

/-!
Steps that may fail, one after the other.
-/

namespace RegistrySync

variable {ε σ α β : Type}

lemma attempt_run_bind (f : ExceptT ε (StateM σ) α) (g : α → ExceptT ε (StateM σ) β) (s : σ) :
    (f >>= g).run s =
      match f.run s with
      | (.error e, after) => (.error e, after)
      | (.ok a, after) => (g a).run after := by
  have hstep : (f >>= g).run s = ExceptT.bindCont g (f.run s).1 (f.run s).2 := rfl
  rw [hstep]
  rcases f.run s with ⟨_ | _, after⟩ <;> rfl

end RegistrySync
