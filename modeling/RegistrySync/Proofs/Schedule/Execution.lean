import RegistrySync.Proofs.Schedule.Clock
import RegistrySync.Proofs.Schedule.Rota
import RegistrySync.Schedule.Timeline

/-!
The run of a schedule as a course of moves.

With a clock that lets time pass up to the instant waited for unless a stop is asked for, whatever
the program does could have come about by small moves: the ticks that are worked off together are
the moves of timers, a run is a task received, started and finished, and a stop is asked for when
the clock says so.
-/

namespace RegistrySync

/-- Waiting takes until the instant waited for, unless a stop is asked for. -/
def Clock.IsSteady {σ : Type} (c : Clock σ) : Prop :=
  ∀ t s, (c.wait t s).1 = false → t ≤ c.now (c.wait t s).2

namespace Schedule

variable {σ : Type} {w : World σ} {c : Clock σ} {s : Schedule} {r : Rota σ}

lemma Horizon.isSteady_clock (h : Horizon) : h.clock.IsSteady := by
  intro t u hw
  dsimp only [Horizon.clock] at hw ⊢
  split at hw
  · cases hw
  · rename_i hstops
    rw [if_neg hstops]
    exact Nat.le_max_right _ _

/-! ### The earliest tick -/

lemma earliest_eq_none {timers : List Timer} (h : earliest timers = none) : timers = [] := by
  rcases timers with _ | ⟨t, ts⟩
  · rfl
  · rw [earliest] at h
    split at h <;> cases h

lemma exists_of_earliest {timers : List Timer} {due : ℕ} (h : earliest timers = some due) :
    ∃ t ∈ timers, t.due = due := by
  induction timers generalizing due with
  | nil => cases h
  | cons t ts ih =>
    rw [earliest] at h
    split at h
    · cases h
      exact ⟨t, List.mem_cons_self, rfl⟩
    · rename_i d hd
      cases h
      obtain ⟨u, hu, rfl⟩ := ih hd
      rcases Nat.le_total t.due u.due with hle | hle
      · exact ⟨t, List.mem_cons_self, (Nat.min_eq_left hle).symm⟩
      · exact ⟨u, List.mem_cons_of_mem t hu, (Nat.min_eq_right hle).symm⟩

namespace Interleaving

lemma IsReached.queue_deliver_ne_nil {n due : ℕ} {u : σ} (h : IsReached n r) (hq : r.queue = [])
    (hdue : earliest r.timers = some due) (hnow : due ≤ c.now u) :
    (Rota.deliver c { r with world := u }).queue ≠ [] := by
  obtain ⟨t, ht, rfl⟩ := exists_of_earliest hdue
  obtain ⟨i, hi⟩ := List.mem_iff_getElem?.1 ht
  have hclear : t.isPending = false := by
    refine Bool.eq_false_iff.2 fun hp => ?_
    have hmarked : (ofRota r).marked i = true := by simp [ofRota, hi, hp]
    have := h.isBalanced.marked_iff.1 hmarked
    simp [State.IsOutstanding, ofRota, hq] at this
  have hposted : i ∈ posted (c.now u) r.timers := by
    rw [mem_posted]
    simp [hi, Timer.isReady, hnow, hclear]
  intro hnil
  obtain ⟨-, hnone⟩ := List.append_eq_nil_iff.1 hnil
  rw [hnone] at hposted
  cases hposted

end Interleaving

namespace Process

open Interleaving (Action IsReached deliveries)

namespace State

/-- A rota as a state among the recurring tasks. -/
def ofRota (r : Rota σ) (isAnnounced : Bool) : State σ :=
  ⟨.recurring, Interleaving.ofRota r, isAnnounced, fun _ => false, false, r.world⟩

/-- The program gets from the state to where the progress is, by the clock, with `k` runs on the
way. If that is the end of the recurring phase, it is the end of the program. -/
def GetsTo (w : World σ) (c : Clock σ) (s : Schedule) (x : State σ) (k : ℕ) : Progress σ → Prop
  | .ongoing r => ∃ ms, Follows w c s x ms (ofRota r false) ∧ (completed s ms).length = k
  | .ended u => ∃ ms y ns z, Follows w c s x ms y ∧ Stops w c s y ns z ∧ z.place = .over ∧
      z.world = (w.info "all done" u).2

variable {x y : State σ} {ms ns : List (Move σ)} {p : Progress σ} {j k : ℕ}

lemma completed_append : completed s (ms ++ ns) = completed s ms ++ completed s ns :=
  List.flatMap_append

lemma GetsTo.after (hp : y.GetsTo w c s j p) (h : Follows w c s x ms y)
    (hk : (completed s ms).length + j = k) : x.GetsTo w c s k p := by
  rcases p with r | u
  · obtain ⟨ns, hns, rfl⟩ := hp
    exact ⟨ms ++ ns, h.trans hns, by rw [completed_append, List.length_append, hk]⟩
  · obtain ⟨ns, y', ns', z, hns, hstop⟩ := hp
    exact ⟨ms ++ ns, y', ns', z, h.trans hns, hstop⟩

/-! ### A step of the rota -/

lemma run?_inner {as : List Action} {rota : Interleaving.State}
    (has : ∀ a ∈ as, ∃ i, a = .raise i ∨ a = .post i) (hplace : x.place = .recurring)
    (halive : x.isEnded = fun _ => false)
    (h : x.rota.run? s.recurring.length as = some rota) :
    x.run? w s (as.map .inner) = some { x with rota } := by
  induction as generalizing x with
  | nil =>
    cases h
    rfl
  | cons a as ih =>
    obtain ⟨r', hact, h⟩ := Option.bind_eq_some_iff.1 h
    obtain ⟨i, hi⟩ := has a List.mem_cons_self
    have hmove : x.move? w s (.inner a) = some { x with rota := r' } := by
      rw [move?, hact]
      rcases hi with rfl | rfl <;> simp [permits, after, hplace, halive]
    rw [List.map_cons, run?_cons, hmove, Option.bind_some]
    exact ih (x := { x with rota := r' }) (fun a ha => has a (List.mem_cons_of_mem _ ha)) hplace
      halive h

lemma announce_ofRota : (ofRota r false).move? w s .announce =
    some (ofRota { r with world := (announceWait w r.world).2 } true) := by
  simp [move?, ofRota, Interleaving.ofRota]

lemma isWaiting_ofRota : (ofRota r true).isWaiting = true := rfl

lemma run?_stopping : (ofRota r true).run? w s stopping = some { ofRota r true with
    place := .over, isAsked := true, rota := { Interleaving.ofRota r with worker := .stopped }
    world := (w.info "all done" (w.info "shutdown requested" r.world).2).2 } := by
  simp [stopping, run?, move?, ofRota, Interleaving.ofRota, isWaiting, permits, after,
    Interleaving.State.act?]

lemma eq_of_mem_deliveries {a : Action} (ha : a ∈ deliveries c r) :
    ∃ i, a = .raise i ∨ a = .post i := by
  obtain ⟨i, -, ha⟩ := List.mem_flatMap.1 ha
  exact ⟨i, List.mem_pair.1 ha⟩

lemma follows_deliver (h : IsReached s.recurring.length r) : Follows w c s (ofRota r true)
    ((deliveries c r).map .inner) (ofRota (r.deliver c) true) := by
  refine Follows.of_run (fun m hm => ?_)
    (run?_inner (fun a => eq_of_mem_deliveries) rfl rfl h.run?_deliver)
  obtain ⟨a, -, rfl⟩ := List.mem_map.1 hm
  rfl

lemma completed_deliveries : completed s ((deliveries c r).map (Move.inner (σ := σ))) = [] := by
  rw [completed, List.flatMap_eq_nil_iff]
  rintro m hm
  obtain ⟨a, ha, rfl⟩ := List.mem_map.1 hm
  obtain ⟨i, rfl | rfl⟩ := eq_of_mem_deliveries ha <;> rfl

lemma run?_serve {i : ℕ} {queue : List ℕ} (hq : r.queue = i :: queue) :
    (ofRota r true).run? w s [.inner (.receive i), .inner (.start i), .inner (.finish i)] =
      some (ofRota (r.serve w s.recurring) false) := by
  have hrun := Interleaving.run?_serve (n := s.recurring.length) hq
    (r.serve w s.recurring).world
  rw [Interleaving.State.run?_cons] at hrun
  obtain ⟨r₁, h₁, hrun⟩ := Option.bind_eq_some_iff.1 hrun
  obtain ⟨r₂, h₂, hrun⟩ := Option.bind_eq_some_iff.1 hrun
  obtain ⟨r₃, h₃, hrun⟩ := Option.bind_eq_some_iff.1 hrun
  cases hrun
  have hreceive : (ofRota r true).move? w s (.inner (.receive i)) =
      some { ofRota r true with rota := r₁ } := move?_inner rfl rfl h₁
  have hstart : State.move? w s { ofRota r true with rota := r₁ } (.inner (.start i)) =
      some { ofRota r true with rota := r₂ } := move?_inner rfl rfl h₂
  have hfinish : State.move? w s { ofRota r true with rota := r₂ } (.inner (.finish i)) =
      some (ofRota (r.serve w s.recurring) false) := by
    refine (move?_inner rfl rfl h₃).trans (congrArg some ?_)
    rw [after, Rota.serve, hq]
    dsimp only
    rcases s.recurring[i]? <;> rfl
  rw [run?_cons, hreceive, Option.bind_some, run?_cons, hstart, Option.bind_some, run?_cons,
    hfinish, Option.bind_some, run?_nil]

lemma GetsTo.of_deliver (h : IsReached s.recurring.length r)
    (hp : (ofRota (r.deliver c) true).GetsTo w c s k p) : (ofRota r true).GetsTo w c s k p :=
  hp.after (follows_deliver h) (by rw [completed_deliveries, List.length_nil, Nat.zero_add])

lemma getsTo_serve (h : IsReached s.recurring.length r) (hq : r.queue ≠ []) :
    (ofRota r true).GetsTo w c s 1 (.ongoing (r.serve w s.recurring)) := by
  obtain ⟨i, queue, hq⟩ := List.exists_cons_of_ne_nil hq
  have hi : i < s.recurring.length :=
    h.isBalanced.lt_of_isOutstanding (.inr (.inl (by simp [Interleaving.ofRota, hq])))
  exact ⟨_, Follows.of_run (by simp [Move.isTimed]) (run?_serve hq),
    by simp [completed, Move.completed, hi]⟩

lemma getsTo_step (hc : c.IsSteady) (hs : s.recurring ≠ []) (h : IsReached s.recurring.length r) :
    (ofRota r false).GetsTo w c s 1 (r.step w c s.recurring) := by
  rcases hwait : c.wait (c.now (announceWait w r.world).2) (announceWait w r.world).2 with
    ⟨_ | _, u⟩
  all_goals simp only [Rota.step, hwait, Bool.false_eq_true, if_false, if_true]
  · -- no stop is asked for, so the ticks up to now are worked off
    have hr := (h.world u).deliver (c := c)
    refine GetsTo.after (j := 1) ?_
      (.look announce_ofRota hwait (.refl (ofRota { r with world := u } true))) rfl
    refine GetsTo.of_deliver (h.world u) ?_
    by_cases hq : (Rota.deliver c { r with world := u }).queue = []
    · rw [List.isEmpty_iff.2 hq, if_pos rfl]
      rcases hdue : earliest (Rota.deliver c { r with world := u }).timers with _ | due
      · have hlength := hr.1
        rw [earliest_eq_none hdue] at hlength
        exact absurd (List.length_eq_zero_iff.1 hlength.symm) hs
      · have hsteady := hc due (Rota.deliver c { r with world := u }).world
        rcases hwait' : c.wait due (Rota.deliver c { r with world := u }).world with ⟨_ | _, v⟩
        all_goals simp only [hwait', Bool.false_eq_true, if_false, if_true]
        · rw [hwait'] at hsteady
          refine GetsTo.after (j := 1) ?_ (.wait isWaiting_ofRota hwait'
            (.refl (ofRota { Rota.deliver c { r with world := u } with world := v } true))) rfl
          exact GetsTo.of_deliver (hr.world v) (getsTo_serve (hr.world v).deliver
            (hr.queue_deliver_ne_nil hq hdue (hsteady rfl)))
        · exact ⟨[], _, _, _, .refl _, .wait isWaiting_ofRota hwait'
            (run?_stopping (r := { Rota.deliver c { r with world := u } with world := v })),
            rfl, rfl⟩
    · rw [List.isEmpty_eq_false_iff.2 hq, if_neg Bool.false_ne_true]
      exact getsTo_serve hr hq
  · -- a stop is asked for, so what is queued stays there
    exact ⟨[], _, _, _, .refl _, .look announce_ofRota hwait
      (run?_stopping (r := { r with world := u })), rfl, rfl⟩

lemma getsTo_steps (hc : c.IsSteady) (hs : s.recurring ≠ []) (enough : σ → Bool) (n : ℕ)
    (h : IsReached s.recurring.length r) :
    ∃ k, (ofRota r false).GetsTo w c s k (r.steps w c s.recurring enough n) ∧
      ∀ r', r.steps w c s.recurring enough n = .ongoing r' → enough r'.world = true ∨ k = n := by
  induction n generalizing r with
  | zero => exact ⟨0, ⟨[], .refl _, rfl⟩, fun _ _ => .inr rfl⟩
  | succ n ih =>
    rw [Rota.steps]
    split
    · rename_i henough
      refine ⟨0, ⟨[], .refl _, rfl⟩, fun r' hr => .inl ?_⟩
      cases hr
      exact henough
    · have hstep := getsTo_step (w := w) hc hs h
      split
      · rename_i u hr
        rw [hr] at hstep
        refine ⟨1, hstep, fun r' hr' => ?_⟩
        cases hr'
      · rename_i r' hr
        rw [hr] at hstep
        obtain ⟨ms, hms, hlength⟩ := hstep
        obtain ⟨k, hk, hn⟩ := ih (h.step hr)
        refine ⟨1 + k, hk.after hms (by rw [hlength]), fun r'' hr' => (hn r'' hr').imp_right ?_⟩
        omega

/-! ### The whole run -/

lemma run?_onceOnly (ts : List Task) (hplace : x.place = .between ts) :
    x.run? w s (ts.flatMap fun t => [.begin t, .complete t]) =
      some { x with place := .between [], world := (ts.forM (Task.runAndTell w) x.world).2 } := by
  induction ts generalizing x with
  | nil =>
    rw [← hplace]
    rfl
  | cons t ts ih =>
    have hrun : x.run? w s [.begin t, .complete t] =
        some { x with place := .between ts, world := (t.runAndTell w x.world).2 } := by
      simp [run?, move?, hplace]
    rw [List.flatMap_cons, run?_append, hrun, Option.bind_some]
    exact ih (x := { x with place := .between ts, world := (t.runAndTell w x.world).2 }) rfl

/-- The program when the tasks that run once are done. -/
def afterPrelude (w : World σ) (s : Schedule) (world : σ) : State σ :=
  { initial world with place := .between [], world := (s.prelude w world).2 }

lemma follows_prelude (world : σ) :
    ∃ ms, Follows w c s (initial world) ms (afterPrelude w s world) := by
  refine ⟨.awaitDaemon :: s.onceOnly.flatMap fun t => [.begin t, .complete t],
    Follows.of_run ?_ ?_⟩
  · refine List.forall_mem_cons.2 ⟨rfl, fun m hm => ?_⟩
    obtain ⟨t, -, hm⟩ := List.mem_flatMap.1 hm
    rcases List.mem_pair.1 hm with rfl | rfl <;> rfl
  · have hawait : (initial world).move? w s .awaitDaemon = some { initial world with
        place := .between s.onceOnly, world := (Schedule.awaitDaemon w s.ping world).2 } := by
      rw [move?, if_pos (by rfl)]
      rfl
    rw [run?_cons, hawait, Option.bind_some, run?_onceOnly s.onceOnly rfl]
    rfl

lemma getsTo_run (hc : c.IsSteady) (hs : s.recurring ≠ []) (enough : σ → Bool) (n : ℕ) (world : σ) :
    let p := (s.rota c (s.prelude w world).2).steps w c s.recurring enough n
    ∃ k, (initial world).GetsTo w c s (s.onceOnly.length + k) p ∧
      ∀ r, p = .ongoing r → enough r.world = true ∨ k = n := by
  obtain ⟨ms, hms⟩ := follows_prelude (w := w) (c := c) (s := s) world
  have henter : (afterPrelude w s world).move? w s .enter =
      some (ofRota (s.rota c (s.prelude w world).2) false) := by
    rw [move?, if_pos ⟨rfl, hs⟩, ofRota, Interleaving.ofRota_rota]
    rfl
  obtain ⟨-, hdone⟩ := isOnTrack_run hms.run?
  rw [List.append_nil] at hdone
  obtain ⟨k, hk, hn⟩ := getsTo_steps (w := w) hc hs enough n
    (Interleaving.isReached_rota s (s.prelude w world).2)
  refine ⟨k, (hk.after (.move rfl henter (.refl _)) ?_).after hms (by rw [hdone]), hn⟩
  exact Nat.zero_add k

/-- What a schedule does with a steady clock is a course that keeps to the clock, and both come to
their end together. Short of that, it takes as many recurring runs as it may, unless they are enough
before. -/
lemma exists_course (hc : c.IsSteady) (enough : σ → Bool) (n : ℕ) (world : σ) :
    ∃ ms x, KeepsToClock w c s (initial world) ms x ∧ x.world = (s.run w c enough n world).2 ∧
      (x.place = .over ∧ (s.run w c enough n world).1 = true ∨
        x.place = .recurring ∧ (s.run w c enough n world).1 = false ∧
          (enough x.world = true ∨ (completed s ms).length = s.onceOnly.length + n)) := by
  by_cases hs : s.recurring = []
  · obtain ⟨ms, hms⟩ := follows_prelude (w := w) (c := c) (s := s) world
    have hrun : s.run w c enough n world = (true, (w.info "all done" (s.prelude w world).2).2) := by
      rw [Schedule.run, hs]
      rfl
    have hleave : (afterPrelude w s world).run? w s [.leave, .conclude] = some
        { afterPrelude w s world with
          place := .over, world := (w.info "all done" (s.prelude w world).2).2 } := by
      simp [run?, move?, afterPrelude, hs]
    refine ⟨_, _, .unasked (hms.trans (Follows.of_run (by simp [Move.isTimed]) hleave)), ?_⟩
    exact ⟨by rw [hrun], .inl ⟨rfl, by rw [hrun]⟩⟩
  · obtain ⟨k, hgets, hn⟩ := getsTo_run (w := w) hc hs enough n world
    have hrecurring : s.recurring.isEmpty = false := List.isEmpty_eq_false_iff.2 hs
    rcases hsteps : (s.rota c (s.prelude w world).2).steps w c s.recurring enough n with r | u
    all_goals rw [hsteps] at hgets hn
    · have hrun : s.run w c enough n world = (false, r.world) := by
        simp only [Schedule.run, hrecurring, hsteps, Bool.false_eq_true, if_false]
      obtain ⟨ms, hms, hlength⟩ := hgets
      refine ⟨ms, _, .unasked hms, by rw [hrun]; rfl, .inr ⟨rfl, by rw [hrun], ?_⟩⟩
      exact (hn r rfl).imp_right fun hk => by rw [hlength, hk]
    · have hrun : s.run w c enough n world = (true, (w.info "all done" u).2) := by
        simp only [Schedule.run, hrecurring, hsteps, Bool.false_eq_true, if_false]
      obtain ⟨ms, y, ns, z, hms, hstop, hplace, hworld⟩ := hgets
      exact ⟨ms ++ ns, z, .asked hms hstop, by rw [hrun, hworld], .inl ⟨hplace, by rw [hrun]⟩⟩

end State

end Process

end Schedule

end RegistrySync
