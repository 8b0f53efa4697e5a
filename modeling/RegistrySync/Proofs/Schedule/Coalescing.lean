import Mathlib.Data.List.Nodup
import Mathlib.Data.Nat.Notation
import Mathlib.Tactic.Lemma
import RegistrySync.Schedule.Interleaving

/-!
Coalescing of ticks in the recurring phase.

A mark is set exactly as long as its task is on its way to the queue, in it, or from it, and a task
is on its way once at most. So no task waits in the queue twice, and there is always a place for a
task that a timer has to post.
-/

namespace RegistrySync.Schedule.Interleaving

namespace State

variable {n : ℕ} {s t : State} {as : List Action} {a : Action} {i : ℕ}

@[simp] lemma put_apply (f : ℕ → Bool) (i j : ℕ) (b : Bool) :
    put f i b j = if j = i then b else f j := rfl

/-- A task is on its way: to the queue, in it, or from it. -/
def IsOutstanding (s : State) (i : ℕ) : Prop :=
  s.posting i = true ∨ i ∈ s.queue ∨ s.worker = .received i

lemma load_pos_iff : 0 < s.load i ↔ s.IsOutstanding i := by
  have hp : s.posting i = true ↔ 0 < (s.posting i).toNat := by
    cases s.posting i <;> decide
  have hq : i ∈ s.queue ↔ 0 < s.queue.count i := List.count_pos_iff.symm
  have hw : s.worker = .received i ↔ 0 < (decide (s.worker = .received i)).toNat := by
    by_cases h : s.worker = .received i <;> simp [h]
  rw [IsOutstanding, hp, hq, hw, load]
  omega

lemma load_act (h : s.act? n a = some t) (i : ℕ) :
    t.load i + [a].count (.start i) = s.load i + [a].count (.raise i) := by
  -- a raise puts one more on its way and a start takes one off; all else moves or leaves it
  cases a with
  | raise j =>
    simp only [act?, Option.ite_none_right_eq_some, Option.some.injEq] at h
    obtain ⟨⟨⟨-, hp⟩, -⟩, rfl⟩ := h
    by_cases e : i = j
    · subst e
      simp [load, hp]
      omega
    · simp [load, e, Ne.symm e]
  | drop j =>
    simp only [act?, Option.ite_none_right_eq_some, Option.some.injEq] at h
    obtain ⟨-, rfl⟩ := h
    simp
  | post j =>
    simp only [act?, Option.ite_none_right_eq_some, Option.some.injEq] at h
    obtain ⟨⟨hp, -⟩, rfl⟩ := h
    by_cases e : i = j
    · subst e
      simp [load, hp]
      omega
    · simp [load, e, Ne.symm e]
  | receive j =>
    simp only [act?, Option.ite_none_right_eq_some, Option.some.injEq] at h
    obtain ⟨⟨hw, hq⟩, rfl⟩ := h
    obtain ⟨q, hq⟩ := List.head?_eq_some_iff.1 hq
    by_cases e : i = j
    · subst e
      simp [load, hw, hq]
      omega
    · simp [load, hw, hq, Ne.symm e]
  | start j =>
    simp only [act?, Option.ite_none_right_eq_some, Option.some.injEq] at h
    obtain ⟨hw, rfl⟩ := h
    by_cases e : i = j
    · subst e
      simp [load, hw]
    · simp [load, hw, Ne.symm e]
  | finish j =>
    simp only [act?, Option.ite_none_right_eq_some, Option.some.injEq] at h
    obtain ⟨hw, rfl⟩ := h
    simp [load, hw]
  | stop =>
    simp only [act?, Option.ite_none_right_eq_some, Option.some.injEq] at h
    obtain ⟨hw, rfl⟩ := h
    simp [load, hw]

lemma load_run (h : s.run? n as = some t) (i : ℕ) :
    t.load i + as.count (.start i) = s.load i + as.count (.raise i) := by
  induction as generalizing s with
  | nil =>
    cases h
    simp
  | cons a as ih =>
    rw [run?_cons] at h
    obtain ⟨u, ha, hu⟩ := Option.bind_eq_some_iff.1 h
    have h1 := load_act ha i
    have h2 := ih hu
    rw [← List.singleton_append, List.count_append, List.count_append]
    omega

lemma marked_act (h : s.act? n a = some t) (i : ℕ) :
    t.marked i = if a = .raise i then true else if a = .start i then false else s.marked i := by
  cases a with
  | raise j =>
    simp only [act?, Option.ite_none_right_eq_some, Option.some.injEq] at h
    obtain ⟨-, rfl⟩ := h
    simp [eq_comm]
  | start j =>
    simp only [act?, Option.ite_none_right_eq_some, Option.some.injEq] at h
    obtain ⟨-, rfl⟩ := h
    simp [eq_comm]
  | drop j | post j | receive j | finish j | stop =>
    simp only [act?, Option.ite_none_right_eq_some, Option.some.injEq] at h
    obtain ⟨-, rfl⟩ := h
    simp

lemma of_raise (h : s.act? n (.raise i) = some t) : i < n ∧ s.marked i = false := by
  simp only [act?, Option.ite_none_right_eq_some] at h
  obtain ⟨⟨⟨hi, -⟩, hm⟩, -⟩ := h
  exact ⟨hi, hm⟩

lemma of_drop (h : s.act? n (.drop i) = some t) : s.marked i = true := by
  simp only [act?, Option.ite_none_right_eq_some] at h
  exact h.1.2

lemma of_start (h : s.act? n (.start i) = some t) : s.worker = .received i := by
  simp only [act?, Option.ite_none_right_eq_some] at h
  exact h.1

lemma running_act (h : s.act? n a = some t) (hr : t.worker = .running i) :
    s.worker = .running i ∨ a = .start i := by
  cases a with
  | start j =>
    simp only [act?, Option.ite_none_right_eq_some, Option.some.injEq] at h
    obtain ⟨-, rfl⟩ := h
    cases hr
    exact .inr rfl
  | raise j | drop j | post j | receive j | finish j | stop =>
    simp only [act?, Option.ite_none_right_eq_some, Option.some.injEq] at h
    obtain ⟨-, rfl⟩ := h
    first
    | exact .inl hr
    | cases hr

/-- What every course keeps up among `n` tasks. -/
structure IsBalanced (n : ℕ) (s : State) : Prop where
  /-- A mark stands for its task being on its way, once. -/
  load : ∀ i, s.load i = (s.marked i).toNat
  marked_lt : ∀ i, s.marked i = true → i < n
  running_lt : ∀ i, s.worker = .running i → i < n

lemma isBalanced_initial : initial.IsBalanced n :=
  ⟨fun _ => rfl, nofun, nofun⟩

namespace IsBalanced

lemma marked_iff (hs : s.IsBalanced n) : s.marked i = true ↔ s.IsOutstanding i := by
  rw [← load_pos_iff, hs.load i]
  cases s.marked i <;> simp

lemma act (hs : s.IsBalanced n) (h : s.act? n a = some t) : t.IsBalanced n := by
  have hstart : ∀ i, a = .start i → s.marked i = true := by
    rintro i rfl
    exact hs.marked_iff.2 (.inr (.inr (of_start h)))
  refine ⟨fun i => ?_, fun i hm => ?_, fun i hr => ?_⟩
  · have hl := load_act h i
    rw [hs.load i] at hl
    rw [marked_act h i]
    by_cases h1 : a = .raise i
    · subst h1
      simp [(of_raise h).2] at hl ⊢
      omega
    · by_cases h2 : a = .start i
      · subst h2
        simp [hstart i rfl] at hl ⊢
        omega
      · simpa [h1, h2] using hl
  · rw [marked_act h i] at hm
    by_cases h1 : a = .raise i
    · subst h1
      exact (of_raise h).1
    · by_cases h2 : a = .start i
      · simp [h2] at hm
      · exact hs.marked_lt i (by simpa [h1, h2] using hm)
  · rcases running_act h hr with h1 | h1
    · exact hs.running_lt i h1
    · exact hs.marked_lt i (hstart i h1)

lemma run (hs : s.IsBalanced n) (h : s.run? n as = some t) : t.IsBalanced n := by
  induction as generalizing s with
  | nil =>
    cases h
    exact hs
  | cons a as ih =>
    obtain ⟨u, ha, hu⟩ := Option.bind_eq_some_iff.1 h
    exact ih (hs.act ha) hu

lemma lt_of_isOutstanding (hs : s.IsBalanced n) (h : s.IsOutstanding i) : i < n :=
  hs.marked_lt i (hs.marked_iff.2 h)

lemma load_le_one (hs : s.IsBalanced n) (i : ℕ) : s.load i ≤ 1 := by
  rw [hs.load i]
  exact Bool.toNat_le _

lemma nodup (hs : s.IsBalanced n) : s.queue.Nodup := by
  refine List.nodup_iff_count_le_one.2 fun i => ?_
  have := hs.load_le_one i
  rw [State.load] at this
  omega

lemma length_lt (hs : s.IsBalanced n) (hp : s.posting i = true) : s.queue.length < n := by
  have hi : i ∉ s.queue := by
    intro hq
    have h1 := hs.load_le_one i
    have h2 := List.count_pos_iff.2 hq
    rw [State.load, hp] at h1
    simp at h1
    omega
  have hnodup : (i :: s.queue).Nodup := List.nodup_cons.2 ⟨hi, hs.nodup⟩
  have hsub : i :: s.queue ⊆ List.range n := by
    intro j hj
    rw [List.mem_range]
    rcases List.mem_cons.1 hj with rfl | hj
    · exact hs.lt_of_isOutstanding (.inl hp)
    · exact hs.lt_of_isOutstanding (.inr (.inl hj))
  have := hnodup.length_le_of_subset hsub
  rwa [List.length_cons, List.length_range] at this

end IsBalanced

end State

open State

/-- **Ticks coalesce.** Whatever the timers and the worker do, and in whatever order, a task is on
its way once while its mark is set and not at all while it is clear. So the queue never holds a task
twice, only tasks that there are come out of it, and a timer finds a free place when it posts. -/
theorem ticks_coalesce {n : ℕ} {as : List Action} {s : State} (h : initial.run? n as = some s) :
    (∀ i, (s.posting i).toNat + s.queue.count i + (decide (s.worker = .received i)).toNat =
      if s.marked i then 1 else 0) ∧
    s.queue.Nodup ∧
    (∀ i, i ∈ s.queue ∨ s.worker = .received i ∨ s.worker = .running i → i < n) ∧
    ∀ i, s.posting i = true → s.queue.length < n ∧ (s.act? n (.post i)).isSome := by
  have hs := isBalanced_initial.run h
  refine ⟨fun i => ?_, hs.nodup, ?_, fun i hp => ?_⟩
  · have := hs.load i
    rw [load] at this
    rw [this]
    cases s.marked i <;> rfl
  · rintro i (hq | hw | hw)
    · exact hs.lt_of_isOutstanding (.inr (.inl hq))
    · exact hs.lt_of_isOutstanding (.inr (.inr hw))
    · exact hs.running_lt i hw
  · have hlen := hs.length_lt hp
    exact ⟨hlen, by simp [act?, hp, hlen]⟩

/-- Two timers and the worker in the middle of what they do: the first timer finds a place. -/
theorem ticks_coalesce_midway :
    ∃ s, initial.run? 2 [.raise 0, .raise 1, .post 1, .drop 1, .receive 1, .drop 1] = some s ∧
      s.posting 0 = true ∧ s.worker = .received 1 ∧
      (∀ i, (s.posting i).toNat + s.queue.count i + (decide (s.worker = .received i)).toNat =
        if s.marked i then 1 else 0) ∧
      s.queue.length < 2 ∧ (s.act? 2 (.post 0)).isSome := by
  obtain ⟨s, hs⟩ : ∃ s,
      initial.run? 2 [.raise 0, .raise 1, .post 1, .drop 1, .receive 1, .drop 1] = some s :=
    ⟨_, rfl⟩
  obtain ⟨hload, -, -, hpost⟩ := ticks_coalesce hs
  obtain rfl := Option.some.inj hs
  exact ⟨_, rfl, rfl, rfl, hload, hpost 0 rfl⟩

end RegistrySync.Schedule.Interleaving
