import Mathlib.Data.Nat.Notation
import Mathlib.Tactic.Lemma
import RegistrySync.Proofs.Schedule.Coalescing
import RegistrySync.Schedule.Timed

/-!
The pace of a task that recurs on its own.

Its runs start at equal distances, the interval or the length of a run, whichever is longer. What
carries this is where the next tick can be: with short runs it comes just when the next run is to
start, and with long runs it comes during the run before, so that the task waits at its end. At an
instant where a run ends and a tick comes, either can be first.
-/

namespace RegistrySync.Schedule.Timed

open Interleaving (Action Worker)
open Interleaving.State (act? canTick IsBalanced marked_act)

variable {p : Pace} {n i d next : ℕ} {x y : State} {a : Action} {e : Event} {es : List Event}

namespace State

lemma run?_cons (p : Pace) (n : ℕ) (x : State) (e : Event) (es : List Event) :
    x.run? p n (e :: es) = (x.event? p n e).bind fun y => y.run? p n es := rfl

lemma run?_append (p : Pace) (n : ℕ) (x : State) (es fs : List Event) :
    x.run? p n (es ++ fs) = (x.run? p n es).bind fun y => y.run? p n fs := by
  induction es generalizing x with
  | nil => rfl
  | cons e es ih =>
    rw [List.cons_append, run?_cons, run?_cons]
    cases x.event? p n e with
    | none => rfl
    | some y => exact ih y

lemma event?_act : x.event? p n (.act a) = some y ↔
    x.allows p a = true ∧ ∃ rota, x.rota.act? n a = some rota ∧ x.after p rota a = y := by
  simp [event?]

lemma event?_pass : x.event? p n (.pass d) = some y ↔
    (0 < d ∧ x.isWorkerIdle p (x.now + d) = true ∧ x.areTimersIdle n (x.now + d) = true) ∧
      { x with now := x.now + d } = y := by
  simp [event?]

lemma areTimersIdle_iff {t : ℕ} : x.areTimersIdle n t = true ↔
    ∀ i < n, x.rota.posting i = false ∧ t ≤ x.due i := by
  simp [areTimersIdle]

@[simp] lemma after_now (rota : Interleaving.State) (a : Action) :
    (x.after p rota a).now = x.now := by
  cases a <;> rfl

@[simp] lemma after_rota (rota : Interleaving.State) (a : Action) :
    (x.after p rota a).rota = rota := by
  cases a <;> rfl

lemma isBalanced_event (hx : x.rota.IsBalanced n) (h : x.event? p n e = some y) :
    y.rota.IsBalanced n := by
  cases e with
  | act a =>
    obtain ⟨-, rota, hact, rfl⟩ := event?_act.1 h
    rw [after_rota]
    exact hx.act hact
  | pass d =>
    obtain ⟨-, rfl⟩ := event?_pass.1 h
    exact hx

lemma starts_cons (h : x.event? p n e = some y) (he : ∀ i, e ≠ .act (.start i)) :
    starts x.now (e :: es) = starts y.now es := by
  rcases e with a | d
  · obtain ⟨-, rota, -, rfl⟩ := event?_act.1 h
    rw [after_now]
    cases a with
    | start i => exact absurd rfl (he i)
    | raise | drop | post | receive | finish | stop => rfl
  · obtain ⟨-, rfl⟩ := event?_pass.1 h
    rfl

/-! ### Nothing gets stuck -/

lemma exists_act (hallows : x.allows p a = true) (h : (x.rota.act? n a).isSome) :
    ∃ e y, x.event? p n e = some y := by
  obtain ⟨rota, hrota⟩ := Option.isSome_iff_exists.1 h
  exact ⟨.act a, _, event?_act.2 ⟨hallows, rota, hrota, rfl⟩⟩

lemma exists_timer (hx : x.rota.IsBalanced n) (hi : i < n)
    (hbusy : x.rota.posting i = true ∨ x.due i ≤ x.now) : ∃ e y, x.event? p n e = some y := by
  cases hp : x.rota.posting i with
  | true => exact exists_act (a := .post i) rfl (by simp [act?, hp, hx.length_lt hp])
  | false =>
    have hdue : x.due i ≤ x.now := hbusy.resolve_left (by simp [hp])
    cases hm : x.rota.marked i with
    | true =>
      exact exists_act (a := .drop i) (decide_eq_true hdue) (by simp [act?, canTick, hi, hp, hm])
    | false =>
      exact exists_act (a := .raise i) (decide_eq_true hdue) (by simp [act?, canTick, hi, hp, hm])

lemma exists_worker (hbusy : x.isWorkerIdle p (x.now + 1) = false) :
    ∃ e y, x.event? p n e = some y := by
  rw [isWorkerIdle] at hbusy
  cases hw : x.rota.worker with
  | waiting =>
    rcases hq : x.rota.queue with _ | ⟨i, queue⟩
    · have hstop : p.stop ≤ x.now := by
        simp [hw, hq] at hbusy
        omega
      exact exists_act (a := .stop) (decide_eq_true hstop) (by simp [act?, hw])
    · rcases Nat.le_total x.now p.stop with hstop | hstop
      · exact exists_act (a := .receive i) (decide_eq_true hstop) (by simp [act?, hw, hq])
      · exact exists_act (a := .stop) (decide_eq_true hstop) (by simp [act?, hw])
  | received i => exact exists_act (a := .start i) rfl (by simp [act?, hw])
  | running i =>
    have hends : x.ends ≤ x.now := by
      simp [hw] at hbusy
      omega
    exact exists_act (a := .finish i) (decide_eq_true hends) (by simp [act?, hw])
  | stopped => simp [hw] at hbusy

lemma exists_event (hx : x.rota.IsBalanced n) : ∃ e y, x.event? p n e = some y := by
  cases hworker : x.isWorkerIdle p (x.now + 1) with
  | false => exact exists_worker hworker
  | true =>
    cases htimers : x.areTimersIdle n (x.now + 1) with
    | true => exact ⟨.pass 1, _, event?_pass.2 ⟨⟨Nat.one_pos, hworker, htimers⟩, rfl⟩⟩
    | false =>
      rw [areTimersIdle, List.all_eq_false] at htimers
      obtain ⟨i, hi, hbusy⟩ := htimers
      refine exists_timer hx (List.mem_range.1 hi) ?_
      simp only [Bool.and_eq_true, Bool.not_eq_true', decide_eq_true_eq, not_and_or,
        Bool.not_eq_false, Nat.not_le, Nat.lt_add_one_iff] at hbusy
      exact hbusy

end State

/-! ### The pace of a single task -/

/-- From one start of the only task to the next. -/
def Pace.period (p : Pace) : ℕ := max (p.interval 0) (p.length 0)

namespace State

/-- With runs no longer than the interval, the tick for the next run comes as that is to start. -/
def IsPrompt (p : Pace) (next : ℕ) (x : State) : Prop :=
  p.length 0 ≤ p.interval 0 →
    if x.rota.marked 0 then x.now = next ∧ x.due 0 = next + p.interval 0 else x.due 0 = next

/-- What the worker does fits that the next run is to start at `next`. -/
def Fits (p : Pace) (next : ℕ) (x : State) : Worker → Prop
  | .waiting => x.IsPrompt p next ∧ x.now ≤ next ∧
    if x.rota.marked 0 then x.now = next else x.due 0 = next
  | .received _ => x.IsPrompt p next ∧ x.now = next ∧ x.now ≤ p.stop
  | .running _ => x.IsPrompt p next ∧ x.now ≤ x.ends ∧ x.ends + p.period = next + p.length 0 ∧
    (x.rota.marked 0 = false → x.due 0 + p.period ≤ next + p.interval 0)
  | .stopped => p.stop ≤ next

/-- The only task is as it has to be if its next run is to start at `next`. -/
structure IsOnTime (p : Pace) (next : ℕ) (x : State) : Prop where
  balanced : x.rota.IsBalanced 1
  now_le : x.now ≤ x.due 0
  due_le : x.due 0 ≤ x.now + p.interval 0
  fits : x.Fits p next x.rota.worker

lemma isOnTime_initial (p : Pace) (t : ℕ) : (initial t).IsOnTime p t where
  balanced := Interleaving.State.isBalanced_initial
  now_le := Nat.le_refl t
  due_le := Nat.le_add_right t _
  fits := ⟨fun _ => rfl, Nat.le_refl t, rfl⟩

namespace IsOnTime

lemma not_overdue (hx : x.IsOnTime p next) : x.now ≤ next ∨ p.stop ≤ next := by
  have hfits := hx.fits
  cases hw : x.rota.worker with
  | waiting =>
    rw [hw] at hfits
    exact .inl hfits.2.1
  | received i =>
    rw [hw] at hfits
    exact .inl (Nat.le_of_eq hfits.2.1)
  | running i =>
    rw [hw] at hfits
    obtain ⟨-, hnow, hends, -⟩ := hfits
    rw [Pace.period] at hends
    omega
  | stopped =>
    rw [hw] at hfits
    exact .inr hfits

lemma tick (hx : x.IsOnTime p next) (hI : 0 < p.interval 0) {rota : Interleaving.State}
    {due : ℕ → ℕ} (hb : rota.IsBalanced 1) (hw : rota.worker = x.rota.worker)
    (hm : rota.marked 0 = true) (hnow : x.due 0 ≤ x.now) (hdue : due 0 = x.due 0 + p.interval 0) :
    IsOnTime p next { x with due, rota } := by
  obtain ⟨-, hle, -, hfits⟩ := hx
  refine ⟨hb, by dsimp only; omega, by dsimp only; omega, ?_⟩
  dsimp only
  rw [hw]
  -- with short runs a tick can only come just as the next run is to start, and once
  cases hworker : x.rota.worker with
  | waiting | received i =>
    rw [hworker] at hfits
    simp only [Fits, IsPrompt, hm, if_true, hdue] at hfits ⊢
    split at hfits <;> omega
  | running i =>
    rw [hworker] at hfits
    obtain ⟨hprompt, hends, hperiod, -⟩ := hfits
    refine ⟨?_, hends, hperiod, by simp [hm]⟩
    rw [Pace.period] at hperiod
    simp only [IsPrompt, hm, if_true, hdue] at hprompt ⊢
    split at hprompt <;> omega
  | stopped =>
    rw [hworker] at hfits
    exact hfits

lemma start (hx : x.IsOnTime p next) (h : x.event? p 1 (.act (.start i)) = some y) :
    x.now = next ∧ next ≤ p.stop ∧ y.IsOnTime p (next + p.period) := by
  have hb := isBalanced_event hx.balanced h
  obtain ⟨-, rota, hact, rfl⟩ := event?_act.1 h
  have hw := Interleaving.State.of_start hact
  obtain rfl : i = 0 := Nat.lt_one_iff.1 (hx.balanced.lt_of_isOutstanding (.inr (.inr hw)))
  have hm : x.rota.marked 0 = true := hx.balanced.marked_iff.2 (.inr (.inr hw))
  have hm' : rota.marked 0 = false := by simp [marked_act hact]
  have hw' : rota.worker = .running 0 := by
    simp only [act?, Option.ite_none_right_eq_some, Option.some.injEq] at hact
    obtain ⟨-, rfl⟩ := hact
    rfl
  obtain ⟨-, hle, hdue, hfits⟩ := hx
  rw [hw] at hfits
  obtain ⟨hprompt, hnow, hstop⟩ := hfits
  refine ⟨hnow, hnow ▸ hstop, hb, hle, hdue, ?_⟩
  simp only [IsPrompt, hm, if_true] at hprompt
  simp only [after, hw', Fits, IsPrompt, hm', Pace.period, Bool.false_eq_true, if_false]
  omega

lemma pass (hx : x.IsOnTime p next) (h : x.event? p 1 (.pass d) = some y) :
    y.IsOnTime p next := by
  obtain ⟨⟨hd, hworker, htimers⟩, rfl⟩ := event?_pass.1 h
  obtain ⟨hb, -, hdue, hfits⟩ := hx
  obtain ⟨hposting, hlate⟩ := areTimersIdle_iff.1 htimers 0 Nat.one_pos
  refine ⟨hb, hlate, by dsimp only; omega, ?_⟩
  have hmarked := hb.marked_iff (i := 0)
  dsimp only
  rw [isWorkerIdle] at hworker
  cases hw : x.rota.worker with
  | waiting =>
    rw [hw] at hfits
    simp only [hw, Bool.and_eq_true, List.isEmpty_iff] at hworker
    have hm : x.rota.marked 0 = false := by
      simp [Bool.eq_false_iff, hmarked, Interleaving.State.IsOutstanding, hposting, hworker.1, hw]
    simp only [Fits, IsPrompt, hm, Bool.false_eq_true, if_false] at hfits ⊢
    omega
  | received i => simp [hw] at hworker
  | running i =>
    rw [hw] at hfits
    simp only [hw, decide_eq_true_eq] at hworker
    obtain ⟨hprompt, -, hperiod, hclear⟩ := hfits
    refine ⟨?_, hworker, hperiod, hclear⟩
    rw [Pace.period] at hperiod
    cases hm : x.rota.marked 0
    all_goals
      simp only [IsPrompt, hm, if_true, Bool.false_eq_true, if_false] at hprompt ⊢
      omega
  | stopped =>
    rw [hw] at hfits
    exact hfits

lemma finish (hx : x.IsOnTime p next) (h : x.event? p 1 (.act (.finish i)) = some y) :
    y.IsOnTime p next := by
  have hb := isBalanced_event hx.balanced h
  obtain ⟨hends, rota, hact, rfl⟩ := event?_act.1 h
  simp only [act?, Option.ite_none_right_eq_some, Option.some.injEq] at hact
  obtain ⟨hw, rfl⟩ := hact
  obtain ⟨-, hle, hdue, hfits⟩ := hx
  refine ⟨hb, hle, hdue, ?_⟩
  rw [hw] at hfits
  obtain ⟨hprompt, hnow, hperiod, hclear⟩ := hfits
  rw [Pace.period] at hperiod hclear
  simp only [allows, decide_eq_true_eq] at hends
  -- with long runs the mark is set by now: a tick came during the run, or comes right now
  cases hm : x.rota.marked 0 with
  | true =>
    simp only [IsPrompt, hm, if_true] at hprompt
    simp only [after, Fits, IsPrompt, hm, if_true]
    omega
  | false =>
    have := hclear hm
    simp only [IsPrompt, hm, Bool.false_eq_true, if_false] at hprompt
    simp only [after, Fits, IsPrompt, hm, Bool.false_eq_true, if_false]
    omega

lemma receive (hx : x.IsOnTime p next) (h : x.event? p 1 (.act (.receive i)) = some y) :
    y.IsOnTime p next := by
  have hb := isBalanced_event hx.balanced h
  obtain ⟨hstop, rota, hact, rfl⟩ := event?_act.1 h
  simp only [act?, Option.ite_none_right_eq_some, Option.some.injEq] at hact
  obtain ⟨⟨hw, hq⟩, rfl⟩ := hact
  have hqueue := List.mem_of_mem_head? hq
  obtain rfl : i = 0 := Nat.lt_one_iff.1 (hx.balanced.lt_of_isOutstanding (.inr (.inl hqueue)))
  have hm : x.rota.marked 0 = true := hx.balanced.marked_iff.2 (.inr (.inl hqueue))
  refine ⟨hb, hx.now_le, hx.due_le, ?_⟩
  have hfits := hx.fits
  rw [hw] at hfits
  simp only [Fits, hm, if_true] at hfits
  exact ⟨hfits.1, hfits.2.2, of_decide_eq_true hstop⟩

lemma keep (hx : x.IsOnTime p next) {rota : Interleaving.State} (hb : rota.IsBalanced 1)
    (hw : rota.worker = x.rota.worker) (hm : rota.marked 0 = x.rota.marked 0) :
    IsOnTime p next { x with rota } := by
  refine ⟨hb, hx.now_le, hx.due_le, ?_⟩
  have hfits := hx.fits
  dsimp only
  rw [hw]
  cases hworker : x.rota.worker
  all_goals
    rw [hworker] at hfits
    simpa only [Fits, IsPrompt, hm] using hfits

lemma stop (hx : x.IsOnTime p next) (h : x.event? p 1 (.act .stop) = some y) :
    y.IsOnTime p next := by
  have hb := isBalanced_event hx.balanced h
  obtain ⟨hstop, rota, hact, rfl⟩ := event?_act.1 h
  simp only [act?, Option.ite_none_right_eq_some, Option.some.injEq] at hact
  obtain ⟨hw, rfl⟩ := hact
  have hfits := hx.fits
  rw [hw] at hfits
  exact ⟨hb, hx.now_le, hx.due_le, Nat.le_trans (of_decide_eq_true hstop) hfits.2.1⟩

lemma event (hx : x.IsOnTime p next) (hI : 0 < p.interval 0) (h : x.event? p 1 e = some y)
    (he : ∀ i, e ≠ .act (.start i)) : y.IsOnTime p next := by
  rcases e with a | d
  · have hb := isBalanced_event hx.balanced h
    cases a with
    | receive i => exact hx.receive h
    | start i => exact absurd rfl (he i)
    | finish i => exact hx.finish h
    | stop => exact hx.stop h
    | raise i | drop i =>
      obtain ⟨hallows, rota, hact, rfl⟩ := event?_act.1 h
      simp only [act?, Option.ite_none_right_eq_some, Option.some.injEq] at hact
      obtain ⟨⟨⟨hi, -⟩, hm⟩, rfl⟩ := hact
      obtain rfl : i = 0 := Nat.lt_one_iff.1 hi
      refine hx.tick hI hb rfl ?_ (of_decide_eq_true hallows) (if_pos rfl)
      first
      | exact hm
      | simp
    | post i =>
      obtain ⟨-, rota, hact, rfl⟩ := event?_act.1 h
      simp only [act?, Option.ite_none_right_eq_some, Option.some.injEq] at hact
      obtain ⟨-, rfl⟩ := hact
      exact hx.keep hb rfl rfl
  · exact hx.pass h

lemma run (hx : x.IsOnTime p next) (hI : 0 < p.interval 0) (h : x.run? p 1 es = some y) :
    y.IsOnTime p (next + (starts x.now es).length * p.period) ∧
      ∀ k s, (starts x.now es)[k]? = some s → s = next + k * p.period ∧ s ≤ p.stop := by
  -- a start puts the next one off by the period; all other events leave it where it is
  induction es generalizing x next with
  | nil =>
    cases h
    simpa [starts] using hx
  | cons e es ih =>
    rw [run?_cons] at h
    obtain ⟨z, he, hz⟩ := Option.bind_eq_some_iff.1 h
    by_cases hstart : ∃ i, e = .act (.start i)
    · obtain ⟨i, rfl⟩ := hstart
      obtain ⟨hnow, hstop, hnext⟩ := hx.start he
      obtain ⟨-, rota, -, rfl⟩ := event?_act.1 he
      obtain ⟨hy, hes⟩ := ih hnext hz
      rw [after_now] at hy hes
      refine ⟨?_, fun k s hs => ?_⟩
      · rwa [starts, List.length_cons, Nat.succ_mul, Nat.add_comm _ p.period, ← Nat.add_assoc]
      · rcases k with _ | k
        · simp [starts] at hs
          omega
        · rw [starts, List.getElem?_cons_succ] at hs
          rw [Nat.succ_mul, Nat.add_comm _ p.period, ← Nat.add_assoc]
          exact hes k s hs
    · rw [starts_cons he (not_exists.1 hstart)]
      exact ih (hx.event hI he (not_exists.1 hstart)) hz

end IsOnTime

/-! ### Time passes -/

/-- How many events there can be before the next tick and before time passes. -/
def backlog (x : State) : ℕ :=
  4 * (x.rota.posting 0).toNat + 3 * x.rota.queue.length +
    match x.rota.worker with
    | .waiting => 1
    | .received _ => 3
    | .running _ => 2
    | .stopped => 0

lemma backlog_event (hx : x.rota.IsBalanced 1) (hI : 0 < p.interval 0)
    (h : x.event? p 1 e = some y) :
    y.backlog + 1 + 5 * x.due 0 + x.now ≤ x.backlog + 5 * y.due 0 + y.now := by
  rcases e with a | d
  · obtain ⟨-, rota, hact, rfl⟩ := event?_act.1 h
    -- a tick pays for what it adds by putting off the next one; all else takes something away
    cases a with
    | raise i =>
      simp only [act?, Option.ite_none_right_eq_some, Option.some.injEq] at hact
      obtain ⟨⟨⟨hi, hp⟩, -⟩, rfl⟩ := hact
      obtain rfl : i = 0 := Nat.lt_one_iff.1 hi
      simp only [backlog, after, Interleaving.State.put_apply, if_true, hp, Bool.toNat_true,
        Bool.toNat_false]
      omega
    | drop i =>
      simp only [act?, Option.ite_none_right_eq_some, Option.some.injEq] at hact
      obtain ⟨⟨⟨hi, -⟩, -⟩, rfl⟩ := hact
      obtain rfl : i = 0 := Nat.lt_one_iff.1 hi
      simp only [backlog, after, if_true]
      omega
    | post i =>
      simp only [act?, Option.ite_none_right_eq_some, Option.some.injEq] at hact
      obtain ⟨⟨hp, -⟩, rfl⟩ := hact
      obtain rfl : i = 0 := Nat.lt_one_iff.1 (hx.lt_of_isOutstanding (.inl hp))
      simp only [backlog, after, Interleaving.State.put_apply, if_true, hp, Bool.toNat_true,
        Bool.toNat_false, List.length_append, List.length_singleton]
      omega
    | receive i =>
      simp only [act?, Option.ite_none_right_eq_some, Option.some.injEq] at hact
      obtain ⟨⟨hw, hq⟩, rfl⟩ := hact
      obtain ⟨queue, hq⟩ := List.head?_eq_some_iff.1 hq
      simp only [backlog, after, hw, hq, List.tail_cons, List.length_cons]
      omega
    | start i | finish i | stop =>
      simp only [act?, Option.ite_none_right_eq_some, Option.some.injEq] at hact
      obtain ⟨hw, rfl⟩ := hact
      simp [backlog, after, hw]
  · obtain ⟨⟨hd, -⟩, rfl⟩ := event?_pass.1 h
    simp only [backlog]
    omega

lemma backlog_run (hx : x.rota.IsBalanced 1) (hI : 0 < p.interval 0)
    (h : x.run? p 1 es = some y) :
    y.backlog + es.length + 5 * x.due 0 + x.now ≤ x.backlog + 5 * y.due 0 + y.now := by
  induction es generalizing x with
  | nil =>
    cases h
    exact Nat.le_refl _
  | cons e es ih =>
    rw [run?_cons] at h
    obtain ⟨z, he, hz⟩ := Option.bind_eq_some_iff.1 h
    have h1 := backlog_event hx hI he
    have h2 := ih (isBalanced_event hx he) hz
    rw [List.length_cons]
    omega

/-! ### A course from the start -/

variable {start k : ℕ}

lemma isOnTime_run (hI : 0 < p.interval 0) (h : (initial start).run? p 1 es = some x) :
    x.IsOnTime p (start + (starts start es).length * p.period) ∧
      ∀ k time, (starts start es)[k]? = some time → time = start + k * p.period ∧ time ≤ p.stop :=
  (isOnTime_initial p start).run hI h

lemma getElem?_starts (hI : 0 < p.interval 0) (h : (initial start).run? p 1 es = some x)
    (hstop : start + k * p.period < p.stop) (hnow : start + k * p.period < x.now) :
    (starts start es)[k]? = some (start + k * p.period) := by
  obtain ⟨hx, htimes⟩ := isOnTime_run hI h
  have hlt : k < (starts start es).length := by
    refine Nat.lt_of_not_le fun hle => ?_
    have := Nat.mul_le_mul_right p.period hle
    have := hx.not_overdue
    omega
  rw [List.getElem?_eq_getElem hlt, (htimes k _ (List.getElem?_eq_getElem hlt)).1]

/-- A course of many events takes its time. -/
lemma length_le (hI : 0 < p.interval 0) (h : (initial start).run? p 1 es = some x) :
    es.length + 6 * start ≤ 6 * x.now + 5 * p.interval 0 + 1 := by
  have hevents := backlog_run Interleaving.State.isBalanced_initial hI h
  have hdue := (isOnTime_run hI h).1.due_le
  have hfirst : (initial start).backlog = 1 := rfl
  dsimp only [initial] at hevents hfirst
  omega

end State

end RegistrySync.Schedule.Timed
