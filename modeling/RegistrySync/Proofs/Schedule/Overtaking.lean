import Mathlib.Data.List.Nodup
import Mathlib.Data.Nat.Notation
import Mathlib.Tactic.Lemma
import RegistrySync.Proofs.Schedule.Coalescing

/-!
How long a task waits in the queue.

The queue is first in, first out, and a task stands in it once at most. So what is received while a
task waits is what stood before it when it was posted, each task once: nothing that is posted later
gets in front of it.
-/

namespace RegistrySync.Schedule.Interleaving

def posts (as : List Action) : List ℕ :=
  as.filterMap fun
    | .post i => some i
    | _ => none

def receipts (as : List Action) : List ℕ :=
  as.filterMap fun
    | .receive i => some i
    | _ => none

def starts (as : List Action) : List ℕ :=
  as.filterMap fun
    | .start i => some i
    | _ => none

lemma mem_receipts {as : List Action} {i : ℕ} : i ∈ receipts as ↔ .receive i ∈ as := by
  rw [receipts, List.mem_filterMap]
  constructor
  · rintro ⟨a, ha, hi⟩
    cases a with
    | receive j =>
      cases hi
      exact ha
    | raise j | drop j | post j | start j | finish j | stop => cases hi
  · exact fun h => ⟨_, h, rfl⟩

namespace State

variable {n : ℕ} {s t : State} {as : List Action} {a : Action} {i j : ℕ}

/-- The task that is taken off the queue and not started yet. -/
def inHand (s : State) : List ℕ :=
  match s.worker with
  | .received i => [i]
  | _ => []

lemma mem_inHand : i ∈ s.inHand ↔ s.worker = .received i := by
  rw [inHand]
  split
  · rename_i j hw
    rw [hw, List.mem_singleton, Worker.received.injEq, eq_comm]
  · rename_i hw
    exact ⟨nofun, fun h => absurd h (hw i)⟩

/-! ### First in, first out -/

lemma queue_act (h : s.act? n a = some t) : s.queue ++ posts [a] = receipts [a] ++ t.queue := by
  cases a with
  | post j =>
    simp only [act?, Option.ite_none_right_eq_some, Option.some.injEq] at h
    obtain ⟨-, rfl⟩ := h
    rfl
  | receive j =>
    simp only [act?, Option.ite_none_right_eq_some, Option.some.injEq] at h
    obtain ⟨⟨-, hq⟩, rfl⟩ := h
    obtain ⟨q, hq⟩ := List.head?_eq_some_iff.1 hq
    simp [hq, posts, receipts]
  | raise j | drop j | start j | finish j | stop =>
    simp only [act?, Option.ite_none_right_eq_some, Option.some.injEq] at h
    obtain ⟨-, rfl⟩ := h
    exact List.append_nil _

/-- What stood in the queue and what is posted, in this order, is what is received and what is left
in the queue. -/
lemma queue_run (h : s.run? n as = some t) : s.queue ++ posts as = receipts as ++ t.queue := by
  induction as generalizing s with
  | nil =>
    cases h
    exact List.append_nil _
  | cons a as ih =>
    obtain ⟨u, ha, hu⟩ := Option.bind_eq_some_iff.1 h
    have hposts : posts (a :: as) = posts [a] ++ posts as := List.filterMap_append (l := [a])
    have hreceipts : receipts (a :: as) = receipts [a] ++ receipts as :=
      List.filterMap_append (l := [a])
    rw [hposts, hreceipts, ← List.append_assoc, queue_act ha, List.append_assoc, ih hu,
      List.append_assoc]

lemma inHand_act (h : s.act? n a = some t) : s.inHand ++ receipts [a] = starts [a] ++ t.inHand := by
  cases a with
  | raise j | drop j | post j =>
    simp only [act?, Option.ite_none_right_eq_some, Option.some.injEq] at h
    obtain ⟨-, rfl⟩ := h
    exact List.append_nil _
  | receive j | start j | finish j | stop =>
    simp only [act?, Option.ite_none_right_eq_some, Option.some.injEq] at h
    obtain ⟨hw, rfl⟩ := h
    simp [inHand, hw, receipts, starts]

lemma inHand_run (h : s.run? n as = some t) : s.inHand ++ receipts as = starts as ++ t.inHand := by
  induction as generalizing s with
  | nil =>
    cases h
    exact List.append_nil _
  | cons a as ih =>
    obtain ⟨u, ha, hu⟩ := Option.bind_eq_some_iff.1 h
    have hreceipts : receipts (a :: as) = receipts [a] ++ receipts as :=
      List.filterMap_append (l := [a])
    have hstarts : starts (a :: as) = starts [a] ++ starts as := List.filterMap_append (l := [a])
    rw [hreceipts, hstarts, ← List.append_assoc, inHand_act ha, List.append_assoc, ih hu,
      List.append_assoc]

/-! ### Before a task that is to be posted -/

lemma IsBalanced.nodup_cons (hs : s.IsBalanced n) (hp : s.posting j = true) :
    (j :: (s.inHand ++ s.queue)).Nodup := by
  refine List.nodup_iff_count_le_one.2 fun i => ?_
  -- each of the three places counts towards the load, which is one at most
  have hload := hs.load_le_one i
  have hhand : s.inHand.count i ≤ (decide (s.worker = .received i)).toNat := by
    by_cases hw : s.worker = .received i
    · simp [inHand, hw]
    · rw [List.count_eq_zero_of_not_mem (mt mem_inHand.1 hw)]
      exact Nat.zero_le _
  have hj : (if j == i then 1 else 0) ≤ (s.posting i).toNat := by
    by_cases e : j = i
    · simp [← e, hp]
    · simp [e]
  rw [State.load] at hload
  rw [List.count_cons, List.count_append]
  omega

lemma IsBalanced.length_cons_le (hs : s.IsBalanced n) (hp : s.posting j = true) :
    (j :: (s.inHand ++ s.queue)).length ≤ n := by
  have hsub : j :: (s.inHand ++ s.queue) ⊆ List.range n := by
    intro i hi
    rw [List.mem_range]
    refine hs.lt_of_isOutstanding ?_
    rcases List.mem_cons.1 hi with rfl | hi
    · exact .inl hp
    · rcases List.mem_append.1 hi with hi | hi
      · exact .inr (.inr (mem_inHand.1 hi))
      · exact .inr (.inl hi)
  have := (hs.nodup_cons hp).length_le_of_subset hsub
  rwa [List.length_range] at this

lemma of_post (h : s.act? n (.post j) = some t) :
    s.posting j = true ∧ t.queue = s.queue ++ [j] ∧ t.inHand = s.inHand := by
  simp only [act?, Option.ite_none_right_eq_some, Option.some.injEq] at h
  obtain ⟨⟨hp, -⟩, rfl⟩ := h
  exact ⟨hp, rfl, rfl⟩

end State

open State

lemma exists_ahead {queue received later left : List ℕ} {j : ℕ} (hj : j ∉ received)
    (h : queue ++ [j] ++ later = received ++ left) :
    ∃ ahead, queue = received ++ ahead ∧ left = ahead ++ j :: later := by
  rw [List.append_assoc, List.singleton_append] at h
  rcases List.append_eq_append_iff.1 h with ⟨more, rfl, hmore⟩ | ⟨ahead, rfl, hleft⟩
  · rcases more with _ | ⟨i, more⟩
    · exact ⟨[], by simp, by simpa using hmore.symm⟩
    · obtain ⟨rfl, -⟩ := List.cons.inj hmore
      exact absurd (by simp) hj
  · exact ⟨ahead, rfl, hleft⟩

/-- **Overtaking is bounded.** Take any course up to the post of a task, and any way that it goes on
without the task being received. What is received then stood in the queue when the task was posted,
what is left of that is all that still stands before it, and what is posted later stands behind it.
So no task is received twice and none is started twice meanwhile; together with the one that waits
they are no more than there are tasks. Whenever the worker waits, it can take the first of those
that still stand before the task, or the task itself, and nothing else. -/
theorem overtaking_is_bounded {n j : ℕ} {as bs : List Action} {s : State}
    (h : initial.run? n (as ++ .post j :: bs) = some s) (hj : .receive j ∉ bs) :
    (receipts bs).Nodup ∧ (receipts bs).length + 1 ≤ n ∧
    (starts bs).Nodup ∧ j ∉ starts bs ∧ (starts bs).length + 1 ≤ n ∧
    ∃ u ahead, initial.run? n as = some u ∧ u.queue = receipts bs ++ ahead ∧
      s.queue = ahead ++ j :: posts bs ∧
      ∀ i, (s.act? n (.receive i)).isSome ↔ s.worker = .waiting ∧ (ahead ++ [j]).head? = some i := by
  rw [run?_append] at h
  obtain ⟨u, hu, h⟩ := Option.bind_eq_some_iff.1 h
  obtain ⟨v, hv, h⟩ := Option.bind_eq_some_iff.1 h
  obtain ⟨hp, hqueue, hhand⟩ := of_post hv
  have hb := isBalanced_initial.run hu
  have hnodup := hb.nodup_cons hp
  have hlength := hb.length_cons_le hp
  have hfifo := queue_run h
  rw [hqueue] at hfifo
  obtain ⟨ahead, hbefore, hafter⟩ := exists_ahead (mt mem_receipts.1 hj) hfifo
  -- what is started was in hand or is received
  have hstarts : starts bs <+: u.inHand ++ receipts bs := by
    rw [← hhand, inHand_run h]
    exact List.prefix_append _ _
  have hsub : (u.inHand ++ receipts bs).Sublist (u.inHand ++ u.queue) := by
    rw [hbefore]
    exact (List.sublist_append_left _ _).append_left _
  have hstarted := hstarts.sublist.trans hsub
  have hreceived : (receipts bs).Sublist (u.inHand ++ u.queue) :=
    (List.sublist_append_right _ _).trans hsub
  obtain ⟨hj', hnodup⟩ := List.nodup_cons.1 hnodup
  rw [List.length_cons] at hlength
  have hr := hreceived.length_le
  have hst := hstarted.length_le
  refine ⟨hnodup.sublist hreceived, by omega, hnodup.sublist hstarted,
    fun hmem => hj' (hstarted.subset hmem), by omega, u, ahead, hu, hbefore, hafter, fun i => ?_⟩
  have hhead : s.queue.head? = (ahead ++ [j]).head? := by
    rw [hafter]
    rcases ahead with _ | ⟨k, ahead⟩ <;> rfl
  rw [act?, hhead]
  split
  · rename_i hcan
    exact ⟨fun _ => hcan, fun _ => rfl⟩
  · rename_i hcan
    exact ⟨fun hsome => absurd hsome Bool.false_ne_true, fun hyes => absurd hyes hcan⟩

/-- The last of three tasks waits for both others, one in hand and one in the queue, and for no run
more, although both have ticks again. -/
theorem overtaking_is_bounded_three :
    ∃ s, initial.run? 3 ([.raise 0, .post 0, .raise 1, .post 1, .receive 0, .raise 2] ++
        .post 2 :: [.start 0, .raise 0, .post 0, .finish 0, .receive 1, .start 1, .raise 1,
          .post 1, .finish 1]) = some s ∧
      s.worker = .waiting ∧ (s.act? 3 (.receive 2)).isSome ∧ ¬ (s.act? 3 (.receive 0)).isSome := by
  obtain ⟨s, hs⟩ : ∃ s, initial.run? 3
      ([.raise 0, .post 0, .raise 1, .post 1, .receive 0, .raise 2] ++
        .post 2 :: [.start 0, .raise 0, .post 0, .finish 0, .receive 1, .start 1, .raise 1,
          .post 1, .finish 1]) = some s := ⟨_, rfl⟩
  obtain ⟨-, -, -, -, -, u, ahead, hu, hbefore, -, hnext⟩ := overtaking_is_bounded hs (by decide)
  have hqueue : some [1] = some u.queue := congrArg (Option.map State.queue) hu
  rw [← Option.some.inj hqueue] at hbefore
  have hahead : [1] ++ [] = [1] ++ ahead := hbefore
  obtain rfl : [] = ahead := List.append_cancel_left hahead
  have hwaits : s.worker = .waiting := by
    obtain rfl := Option.some.inj hs
    rfl
  exact ⟨s, hs, hwaits, (hnext 2).2 ⟨hwaits, rfl⟩, fun h => absurd ((hnext 0).1 h).2 (by decide)⟩

end RegistrySync.Schedule.Interleaving
