import Mathlib.Data.List.Nodup
import Mathlib.Data.Nat.Notation
import Mathlib.Tactic.Lemma
import RegistrySync.Proofs.Schedule.Coalescing

/-!
The rota as a course of events.

What a rota does between two runs of its tasks is what its timers and its worker can do in small
steps: ticks that are worked off together raise marks and post tasks one after the other, and a run
is a task received, started and finished. So everything that holds of all courses holds of rotas.
-/

namespace RegistrySync.Schedule

variable {now : ℕ} {timers : List Timer} {i : ℕ}

/-! ### The tasks that are posted -/

lemma insertPost_perm (p : ℕ × ℕ) (ps : List (ℕ × ℕ)) : (insertPost p ps).Perm (p :: ps) := by
  induction ps with
  | nil => exact .refl _
  | cons q ps ih =>
    rw [insertPost]
    split
    · exact .refl _
    · exact (ih.cons q).trans (.swap p q ps)

lemma foldl_insertPost_perm (ps done : List (ℕ × ℕ)) :
    (ps.foldl (fun ps p => insertPost p ps) done).Perm (ps ++ done) := by
  induction ps generalizing done with
  | nil => exact .refl _
  | cons p ps ih =>
    refine (ih (insertPost p done)).trans ?_
    exact ((insertPost_perm p done).append_left ps).trans List.perm_middle

/-- Whether a timer has a tick to post its task for. -/
def Timer.isReady (t : Timer) (now : ℕ) : Bool := decide (t.due ≤ now) && !t.isPending

lemma mem_postsFrom {k : ℕ} : i ∈ (postsFrom now k timers).map (·.2) ↔
    k ≤ i ∧ (timers[i - k]?).any (·.isReady now) := by
  induction timers generalizing k with
  | nil => simp [postsFrom]
  | cons t ts ih =>
    have htail : i ∈ (postsFrom now (k + 1) ts).map (·.2) ↔
        k < i ∧ ((t :: ts)[i - k]?).any (·.isReady now) := by
      rw [ih]
      refine and_congr_right fun hk => ?_
      rw [show i - k = i - (k + 1) + 1 by omega, List.getElem?_cons_succ]
    have hhead : i = k → ((t :: ts)[i - k]?).any (·.isReady now) = t.isReady now := by
      rintro rfl
      simp
    rw [postsFrom, Timer.posts]
    by_cases hr : t.due ≤ now ∧ ¬ t.isPending
    · rw [if_pos hr, List.map_cons, List.mem_cons, htail]
      constructor
      · rintro (e | ⟨hk, h⟩)
        · exact ⟨Nat.le_of_eq e.symm, by rw [hhead e]; simpa [Timer.isReady] using hr⟩
        · exact ⟨Nat.le_of_lt hk, h⟩
      · rintro ⟨hk, h⟩
        exact (Nat.eq_or_lt_of_le hk).imp Eq.symm fun hk => ⟨hk, h⟩
    · rw [if_neg hr, htail]
      refine ⟨fun ⟨hk, h⟩ => ⟨Nat.le_of_lt hk, h⟩,
        fun ⟨hk, h⟩ => ⟨Nat.lt_of_le_of_ne hk fun e => ?_, h⟩⟩
      rw [hhead e.symm] at h
      simp [Timer.isReady] at h hr
      simp [hr h.1] at h

lemma nodup_postsFrom (k : ℕ) : ((postsFrom now k timers).map (·.2)).Nodup := by
  induction timers generalizing k with
  | nil => exact List.nodup_nil
  | cons t ts ih =>
    rw [postsFrom]
    split
    · rw [List.map_cons, List.nodup_cons, mem_postsFrom]
      exact ⟨fun h => by omega, ih (k + 1)⟩
    · exact ih (k + 1)

lemma posted_perm : (posted now timers).Perm ((postsFrom now 0 timers).map (·.2)) := by
  have h := foldl_insertPost_perm (postsFrom now 0 timers) []
  rw [List.append_nil] at h
  exact h.map _

lemma mem_posted : i ∈ posted now timers ↔ (timers[i]?).any (·.isReady now) := by
  rw [posted_perm.mem_iff, mem_postsFrom]
  simp

lemma nodup_posted : (posted now timers).Nodup :=
  posted_perm.nodup_iff.2 (nodup_postsFrom 0)

namespace Interleaving

open State

variable {n : ℕ} {s t : State}

/-! ### Ticks worked off together -/

def State.afterPosts (s : State) (is : List ℕ) : State :=
  { s with marked := fun j => s.marked j || is.contains j, queue := s.queue ++ is }

lemma run?_posts {is : List ℕ} (hs : s.IsBalanced n) (hp : ∀ i, s.posting i = false)
    (hn : is.Nodup) (hi : ∀ i ∈ is, i < n ∧ s.marked i = false) :
    s.run? n (is.flatMap fun i => [.raise i, .post i]) = some (s.afterPosts is) := by
  induction is generalizing s with
  | nil => simp [State.afterPosts]
  | cons i is ih =>
    obtain ⟨hlt, hm⟩ := hi i List.mem_cons_self
    obtain ⟨hnot, hn⟩ := List.nodup_cons.1 hn
    obtain ⟨u, hu⟩ : ∃ u, u = { s with
      marked := State.put s.marked i true, posting := State.put s.posting i true } := ⟨_, rfl⟩
    have hraise : s.act? n (.raise i) = some u := by
      rw [act?, if_pos ⟨⟨hlt, hp i⟩, hm⟩, hu]
    have hb := hs.act hraise
    have hpost : u.act? n (.post i) = some (s.afterPosts [i]) := by
      have hui : u.posting i = true := by simp [hu]
      rw [act?, if_pos ⟨hui, hb.length_lt hui⟩, hu]
      have hback : State.put (State.put s.posting i true) i false = s.posting := by
        funext j
        by_cases e : j = i <;> simp [e, hp]
      have hmark : State.put s.marked i true = fun j => s.marked j || [i].contains j := by
        funext j
        by_cases e : j = i <;> simp [e]
      simp [State.afterPosts, hback, hmark]
    have hrest := ih (s := s.afterPosts [i]) (hb.act hpost) hp hn fun j hj => by
      refine ⟨(hi j (List.mem_cons_of_mem i hj)).1, ?_⟩
      have e : j ≠ i := fun e => hnot (e ▸ hj)
      simp [State.afterPosts, (hi j (List.mem_cons_of_mem i hj)).2, e]
    rw [List.flatMap_cons, run?_append, run?_cons, hraise, Option.bind_some, run?_cons, hpost,
      Option.bind_some, run?_nil, Option.bind_some, hrest]
    simp [State.afterPosts, Bool.or_assoc]

/-! ### Steps of a rota -/

section

variable {σ : Type} {w : World σ} {c : Clock σ} {tasks : List Task} {r r' : Rota σ}

/-- The rota is among the states that courses of `n` tasks lead to. -/
def IsReached (n : ℕ) (r : Rota σ) : Prop :=
  r.timers.length = n ∧ ∃ as, initial.run? n as = some (ofRota r)

lemma IsReached.isBalanced (h : IsReached n r) : (ofRota r).IsBalanced n := by
  obtain ⟨-, as, h⟩ := h
  exact isBalanced_initial.run h

lemma IsReached.extend (h : IsReached n r) (hl : r'.timers.length = n) (as : List Action)
    (hr : (ofRota r).run? n as = some (ofRota r')) : IsReached n r' := by
  obtain ⟨-, bs, h⟩ := h
  exact ⟨hl, bs ++ as, by rw [run?_append, h, Option.bind_some, hr]⟩

lemma IsReached.world (h : IsReached n r) (s : σ) : IsReached n { r with world := s } := h

lemma ofRota_deliver (r : Rota σ) :
    ofRota (r.deliver c) = (ofRota r).afterPosts (posted (c.now r.world) r.timers) := by
  have hmark : ∀ j, ((r.timers.map (·.advance (c.now r.world)))[j]?).any Timer.isPending =
      ((r.timers[j]?).any Timer.isPending ||
        (posted (c.now r.world) r.timers).contains j) := by
    intro j
    rw [Bool.eq_iff_iff, Bool.or_eq_true, List.contains_iff_mem, mem_posted, List.getElem?_map]
    cases r.timers[j]? with
    | none => simp
    | some t => cases hp : t.isPending <;> simp [Timer.advance, Timer.isReady, hp]
  simp only [ofRota, Rota.deliver, State.afterPosts, State.mk.injEq, and_true]
  exact funext hmark

/-- The posts of the ticks that are worked off together, one after the other. -/
def deliveries (c : Clock σ) (r : Rota σ) : List Action :=
  (posted (c.now r.world) r.timers).flatMap fun i => [.raise i, .post i]

lemma IsReached.run?_deliver (h : IsReached n r) :
    (ofRota r).run? n (deliveries c r) = some (ofRota (r.deliver c)) := by
  have hready : ∀ i ∈ posted (c.now r.world) r.timers, i < n ∧ (ofRota r).marked i = false := by
    intro i hi
    rw [mem_posted, Option.any_eq_true] at hi
    obtain ⟨t, ht, hready⟩ := hi
    obtain ⟨hlt, -⟩ := List.getElem?_eq_some_iff.1 ht
    simp only [Timer.isReady, Bool.and_eq_true, Bool.not_eq_true'] at hready
    exact ⟨h.1 ▸ hlt, by simp [ofRota, ht, hready.2]⟩
  rw [ofRota_deliver]
  exact run?_posts h.isBalanced (fun _ => rfl) nodup_posted hready

lemma IsReached.deliver (h : IsReached n r) : IsReached n (r.deliver c) :=
  h.extend (by simp [Rota.deliver, h.1]) _ h.run?_deliver

lemma run?_serve {i : ℕ} {queue : List ℕ} (hq : r.queue = i :: queue) (u : σ) :
    (ofRota r).run? n [.receive i, .start i, .finish i] =
      some (ofRota ⟨r.timers.modify i Timer.taken, queue, u⟩) := by
  have hmark : (fun j => ((r.timers.modify i Timer.taken)[j]?).any Timer.isPending) =
      State.put (ofRota r).marked i false := by
    funext j
    rw [List.getElem?_modify]
    by_cases e : i = j
    · cases hj : r.timers[j]? <;> simp [e, Timer.taken]
    · simp [e, Ne.symm e, ofRota]
  simp [run?, act?, ofRota, hq, hmark]

lemma IsReached.serve (h : IsReached n r) : IsReached n (r.serve w tasks) := by
  rw [Rota.serve]
  split
  · exact h
  · rename_i i queue hq
    have hrun (u : σ) : IsReached n ⟨r.timers.modify i Timer.taken, queue, u⟩ :=
      h.extend (by simp [h.1]) _ (run?_serve hq u)
    dsimp only
    split
    · exact hrun r.world
    · exact hrun _

lemma IsReached.step (h : IsReached n r) (hr : r.step w c tasks = .ongoing r') :
    IsReached n r' := by
  have hw := h.world (c.wait (c.now (announceWait w r.world).2) (announceWait w r.world).2).2
  simp only [Rota.step] at hr
  split at hr
  · cases hr
  · split at hr
    · split at hr
      · cases hr
        exact hw.deliver
      · split at hr
        · cases hr
        · cases hr
          exact ((hw.deliver.world _).deliver).serve
    · cases hr
      exact hw.deliver.serve

lemma ofRota_rota (s : Schedule) (world : σ) : ofRota (s.rota c world) = initial := by
  have hmark : ∀ j : ℕ, ((s.recurring.map fun t => Timer.starting t.interval (c.now world))[j]?).any
      Timer.isPending = false := by
    intro j
    rw [List.getElem?_map]
    cases s.recurring[j]? <;> simp [Timer.starting]
  simp only [initial, ofRota, rota, State.mk.injEq, and_true]
  exact funext hmark

lemma isReached_rota (s : Schedule) (world : σ) :
    IsReached s.recurring.length (s.rota c world) :=
  ⟨by simp [rota], [], by rw [ofRota_rota, run?_nil]⟩

lemma isReached_steps (enough : σ → Bool) (k : ℕ) (h : IsReached n r)
    (hr : r.steps w c tasks enough k = .ongoing r') : IsReached n r' := by
  induction k generalizing r with
  | zero =>
    cases hr
    exact h
  | succ k ih =>
    rw [Rota.steps] at hr
    split at hr
    · cases hr
      exact h
    · split at hr
      · cases hr
      · rename_i hstep
        exact ih (h.step hstep) hr

/-- **A task waits once.** However far a schedule has come in its recurring phase, its queue holds
just the tasks with a tick that no run has made up for, each of them once. -/
theorem mem_queue_steps (s : Schedule) (world : σ) (enough : σ → Bool) (k : ℕ)
    (hr : (s.rota c world).steps w c s.recurring enough k = .ongoing r) :
    r.queue.Nodup ∧ ∀ i, i ∈ r.queue ↔ (r.timers[i]?).any Timer.isPending := by
  have hb := (isReached_steps enough k (isReached_rota s world) hr).isBalanced
  refine ⟨hb.nodup, fun i => ?_⟩
  have hmark : (r.timers[i]?).any Timer.isPending = true ↔ (ofRota r).IsOutstanding i :=
    hb.marked_iff
  rw [hmark]
  simp [State.IsOutstanding, ofRota]

end

end Interleaving

end RegistrySync.Schedule
