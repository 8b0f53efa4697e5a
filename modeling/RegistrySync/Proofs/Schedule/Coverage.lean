import Mathlib.Data.Nat.Notation
import Mathlib.Tactic.Lemma
import RegistrySync.Proofs.Schedule.Coalescing

/-!
Every tick is made up for by a run.

Dropping a tick loses nothing: its task is on its way then, and the run that it is on its way to
comes after the tick. Starts and ticks that are taken in alternate for each task, beginning with a
tick.
-/

namespace RegistrySync.Schedule.Interleaving

namespace State

variable {n : ℕ} {s t : State} {as : List Action} {a : Action} {i : ℕ}

lemma marked_run (h : s.run? n as = some t) (hs : s.marked i = true) (hi : .start i ∉ as) :
    t.marked i = true := by
  induction as generalizing s with
  | nil =>
    cases h
    exact hs
  | cons a as ih =>
    obtain ⟨ha, hi⟩ := not_or.1 (mt List.mem_cons.2 hi)
    obtain ⟨u, hu, h⟩ := Option.bind_eq_some_iff.1 h
    refine ih h ?_ hi
    rw [marked_act hu i, if_neg (Ne.symm ha), hs, ite_self]

lemma marked_of_tick (ht : a = .raise i ∨ a = .drop i) (h : s.act? n a = some t) :
    t.marked i = true := by
  rw [marked_act h i]
  rcases ht with rfl | rfl
  · rw [if_pos rfl]
  · simpa using of_drop h

lemma run?_append_cons {bs : List Action} (h : s.run? n (as ++ a :: bs) = some t) :
    ∃ u v, s.run? n as = some u ∧ u.act? n a = some v ∧ v.run? n bs = some t := by
  rw [run?_append] at h
  obtain ⟨u, hu, h⟩ := Option.bind_eq_some_iff.1 h
  obtain ⟨v, hv, h⟩ := Option.bind_eq_some_iff.1 h
  exact ⟨u, v, hu, hv, h⟩

/-- What has been taken in and what has been started differ by what is on its way. -/
lemma count_raise (h : initial.run? n as = some s) (i : ℕ) :
    as.count (.raise i) = as.count (.start i) + s.load i := by
  have hl := load_run h i
  have h0 : initial.load i = 0 := rfl
  omega

end State

open State

/-- **No tick is lost.** After a tick, taken in or dropped, its task is started or on its way still,
also when the worker has stopped. Each start has a tick of its own that was taken in before it: the
starts before it have used up all others. So at any time the ticks taken in are as many as the
starts, or one more, and that exactly while the task is on its way. -/
theorem no_tick_is_lost {n : ℕ} {as : List Action} {s : State} (h : initial.run? n as = some s)
    (i : ℕ) :
    (∀ before after tick, as = before ++ tick :: after → tick = .raise i ∨ tick = .drop i →
      .start i ∈ after ∨ s.IsOutstanding i) ∧
    (∀ before after, as = before ++ .start i :: after →
      before.count (.raise i) = before.count (.start i) + 1) ∧
    as.count (.start i) ≤ as.count (.raise i) ∧
    as.count (.raise i) ≤ as.count (.start i) + 1 ∧
    (as.count (.raise i) = as.count (.start i) + 1 ↔ s.IsOutstanding i) := by
  have hs := isBalanced_initial.run h
  have hcount := count_raise h i
  have hle := hs.load_le_one i
  refine ⟨?_, ?_, by omega, by omega, ?_⟩
  · rintro before after tick rfl htick
    obtain ⟨u, v, -, hv, hafter⟩ := run?_append_cons h
    rcases Decidable.em (.start i ∈ after) with hi | hi
    · exact .inl hi
    · -- no start has cleared the mark that the tick has left
      have hm := marked_run hafter (marked_of_tick htick hv) hi
      exact .inr (hs.marked_iff.1 hm)
  · rintro before after rfl
    obtain ⟨u, v, hu, hv, -⟩ := run?_append_cons h
    have hb := isBalanced_initial.run hu
    -- the task that is started was in hand, so it was on its way once
    have hpos : 0 < u.load i := load_pos_iff.2 (.inr (.inr (of_start hv)))
    have := hb.load_le_one i
    have := count_raise hu i
    omega
  · rw [← load_pos_iff]
    omega

/-- A tick between the dequeue and the start is dropped, and the start makes up for it. -/
theorem no_tick_is_lost_before_start :
    ∃ s, initial.run? 1 [.raise 0, .post 0, .receive 0, .drop 0, .start 0] = some s ∧
      (.start 0 ∈ [Action.start 0] ∨ s.IsOutstanding 0) ∧ ¬ s.IsOutstanding 0 := by
  obtain ⟨s, hs⟩ : ∃ s,
      initial.run? 1 [.raise 0, .post 0, .receive 0, .drop 0, .start 0] = some s := ⟨_, rfl⟩
  obtain ⟨hcover, -, -, -, hcount⟩ := no_tick_is_lost hs 0
  exact ⟨s, hs, hcover [.raise 0, .post 0, .receive 0] _ (.drop 0) rfl (.inr rfl),
    fun ho => absurd (hcount.2 ho) (by decide)⟩

end RegistrySync.Schedule.Interleaving
