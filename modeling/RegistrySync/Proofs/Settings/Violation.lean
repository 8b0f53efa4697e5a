import Mathlib.Data.List.Nodup
import Mathlib.Tactic.Lemma
import RegistrySync.Settings.Violation

/-!
Settings without a violation.

The check finds nothing exactly in the settings that `IsValid` describes.
-/

namespace RegistrySync.Settings

variable {names : List String} {s : Settings}

lemma Location.violation_eq_none {l : Location} {side : Side} :
    l.violation side = none ↔ l.IsValid := by
  rw [Location.violation]
  by_cases hr : Text.onlyBlanks l.registry = true
  · rw [if_pos hr]
    exact ⟨nofun, fun h => absurd hr h.registry⟩
  · rw [if_neg hr]
    by_cases ha : Text.onlyBlanks l.auth = true
    · rw [if_pos ha]
      exact ⟨fun _ => ⟨hr, .inl ha⟩, fun _ => rfl⟩
    · rw [if_neg ha]
      rcases hd : Credential.decode l.auth with why | c
      · refine ⟨nofun, fun h => ?_⟩
        obtain ⟨c, hc⟩ := h.auth.resolve_left ha
        rw [hd] at hc
        cases hc
      · exact ⟨fun _ => ⟨hr, .inr ⟨c, hd⟩⟩, fun _ => rfl⟩

lemma Task.violation_eq_none {t : Task} : t.violation = none ↔ t.IsValid := by
  rw [Task.violation]
  by_cases hn : Text.onlyBlanks t.name = true
  · rw [if_pos hn]
    exact ⟨nofun, fun h => absurd hn h.name⟩
  · rw [if_neg hn]
    simp only [Option.orElse_eq_orElse, Option.orElse_eq_or, Option.or_eq_none_iff,
      Location.violation_eq_none]
    by_cases hm : t.mappings.isEmpty = true
    · rw [if_pos hm]
      exact ⟨fun h => (nomatch h.2.2), fun h => absurd (List.isEmpty_iff.1 hm) h.mappings⟩
    · rw [if_neg hm]
      rw [List.isEmpty_iff] at hm
      by_cases hb : (t.mappings.any fun m => m.tags.any Text.onlyBlanks) = true
      · rw [if_pos hb]
        refine ⟨fun h => (nomatch h.2.2), fun h => ?_⟩
        obtain ⟨m, hmem, hany⟩ := List.any_eq_true.1 hb
        obtain ⟨tag, htag, hblank⟩ := List.any_eq_true.1 hany
        exact absurd hblank (h.tags m hmem tag htag)
      · rw [if_neg hb]
        refine ⟨fun h => ⟨hn, h.1, h.2.1, hm, fun m hmem tag htag hblank => hb ?_⟩,
          fun h => ⟨h.source, h.target, rfl⟩⟩
        exact List.any_eq_true.2 ⟨m, hmem, List.any_eq_true.2 ⟨tag, htag, hblank⟩⟩

lemma firstViolation_eq_none {tasks : List Task} : firstViolation names tasks = none ↔
    (∀ t ∈ tasks, t.IsValid) ∧ (tasks.map Task.name).Nodup ∧ ∀ t ∈ tasks, t.name ∉ names := by
  induction tasks generalizing names with
  | nil => simp [firstViolation]
  | cons t tasks ih =>
    rw [firstViolation]
    rcases hv : t.violation with _ | v
    · have ht := Task.violation_eq_none.1 hv
      by_cases hmem : t.name ∈ names
      · simp [hmem]
      · have hlater : (∀ u ∈ tasks, u.name ∉ t.name :: names) ↔
            t.name ∉ tasks.map Task.name ∧ ∀ u ∈ tasks, u.name ∉ names := by
          simp only [List.mem_cons, not_or, forall_and, List.mem_map, not_exists, not_and]
        dsimp only
        rw [if_neg (by simpa using hmem), ih, hlater, List.forall_mem_cons, List.forall_mem_cons,
          List.map_cons, List.nodup_cons]
        tauto
    · have ht : ¬ t.IsValid := fun h => by
        rw [Task.violation_eq_none.2 h] at hv
        cases hv
      simp [ht]

lemma violation_eq_none : s.violation = none ↔ s.IsValid := by
  rw [violation]
  by_cases ha : s.daemon.pingAttempts = 0
  · rw [if_pos ha]
    exact ⟨nofun, fun h => absurd h.attempts (by simp [ha])⟩
  · rw [if_neg ha]
    by_cases ht : s.tasks.isEmpty = true
    · rw [if_pos ht]
      exact ⟨nofun, fun h => absurd (List.isEmpty_iff.1 ht) h.tasks⟩
    · rw [if_neg ht, firstViolation_eq_none]
      rw [List.isEmpty_iff] at ht
      refine ⟨fun h => ⟨?_, ht, h.2.1, h.1⟩, fun h => ⟨h.each, h.distinct, nofun⟩⟩
      exact UInt32.pos_iff_ne_zero.2 ha

end RegistrySync.Settings
