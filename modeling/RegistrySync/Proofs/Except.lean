import Mathlib.Tactic.Lemma

/-!
Readings that may fail, one after the other.
-/

namespace RegistrySync

variable {ε α β : Type}

lemma bind_eq_ok {f : Except ε α} {g : α → Except ε β} {b : β} :
    f >>= g = .ok b ↔ ∃ x, f = .ok x ∧ g x = .ok b := by
  rcases f with e | x
  · exact ⟨nofun, nofun⟩
  · exact ⟨fun h => ⟨x, rfl, h⟩, by rintro ⟨_, ⟨⟩, h⟩; exact h⟩

lemma map_eq_ok {f : Except ε α} {g : α → β} {b : β} (h : f.map g = .ok b) :
    ∃ x, f = .ok x ∧ g x = b := by
  rcases f with e | x
  · cases h
  · exact ⟨x, rfl, Except.ok.inj h⟩

end RegistrySync
