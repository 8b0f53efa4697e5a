import Mathlib.Data.Nat.Notation
import Mathlib.Tactic.Lemma
import RegistrySync.Proofs.Schedule.Coalescing
import RegistrySync.Schedule.Process

/-!
What every course of a whole schedule keeps up.

A timer is ended only when the worker has stopped, so the queue is never closed, and the worker stops
only if a stop was asked for. The tasks that run once are run through before the timers are started,
one at a time and in their order, and from then on one recurring task runs at a time.
-/

namespace RegistrySync.Schedule

open Interleaving (Action Worker)

namespace Interleaving.State

variable {n : ℕ} {r t : Interleaving.State} {a : Action}

lemma stopped_act (h : r.act? n a = some t) :
    t.worker = .stopped ↔ r.worker = .stopped ∨ a = .stop := by
  cases a with
  | raise i | drop i | post i =>
    simp only [act?, Option.ite_none_right_eq_some, Option.some.injEq] at h
    obtain ⟨-, rfl⟩ := h
    simp
  | receive i | start i | finish i | stop =>
    simp only [act?, Option.ite_none_right_eq_some, Option.some.injEq] at h
    obtain ⟨hw, rfl⟩ := h
    simp [hw]

lemma received_act {i : ℕ} (h : r.act? n a = some t) (ht : t.worker = .received i) :
    r.worker = .received i ∨ a = .receive i := by
  cases a with
  | raise j | drop j | post j =>
    simp only [act?, Option.ite_none_right_eq_some, Option.some.injEq] at h
    obtain ⟨-, rfl⟩ := h
    exact .inl ht
  | receive j =>
    simp only [act?, Option.ite_none_right_eq_some, Option.some.injEq] at h
    obtain ⟨-, rfl⟩ := h
    cases ht
    exact .inr rfl
  | start j | finish j | stop =>
    simp only [act?, Option.ite_none_right_eq_some, Option.some.injEq] at h
    obtain ⟨-, rfl⟩ := h
    cases ht

end Interleaving.State

namespace Process

namespace State

variable {σ : Type} {w : World σ} {s : Schedule} {x y z : State σ} {m : Move σ} {ms ns : List (Move σ)}
  {a : Action} {b c : List Task}

/-! ### Single moves -/

section

variable {rota : Interleaving.State}

@[simp] lemma after_place : (x.after w s rota a).place = x.place := by cases a <;> rfl

@[simp] lemma after_rota : (x.after w s rota a).rota = rota := by cases a <;> rfl

@[simp] lemma after_isEnded : (x.after w s rota a).isEnded = x.isEnded := by cases a <;> rfl

@[simp] lemma after_isAsked : (x.after w s rota a).isAsked = x.isAsked := by cases a <;> rfl

end

lemma isWaiting_iff : x.isWaiting = true ↔
    x.place = .recurring ∧ x.rota.worker = .waiting ∧ x.isAnnounced = true := by
  simp [isWaiting, and_assoc]

/-- What each move needs and where it leads. -/
inductive Step (w : World σ) (s : Schedule) (x : State σ) : Move σ → State σ → Prop where
  | awaitDaemon (hplace : x.place = .opening) : Step w s x .awaitDaemon { x with
      place := .between s.onceOnly, world := (Schedule.awaitDaemon w s.ping x.world).2 }
  | begin (t : Task) (left : List Task) (hplace : x.place = .between (t :: left)) :
    Step w s x (.begin t) { x with place := .within t left }
  | complete (t : Task) (left : List Task) (hplace : x.place = .within t left) :
    Step w s x (.complete t) { x with
      place := .between left, world := (t.runAndTell w x.world).2 }
  | enter (hplace : x.place = .between []) (hs : s.recurring ≠ []) : Step w s x .enter { x with
      place := .recurring, rota := .initial, isAnnounced := false, isEnded := fun _ => false }
  | announce (hplace : x.place = .recurring) (hw : x.rota.worker = .waiting)
      (hsilent : x.isAnnounced = false) : Step w s x .announce { x with
      isAnnounced := true, world := (announceWait w x.world).2 }
  | inner (a : Action) (rota : Interleaving.State) (hplace : x.place = .recurring)
      (hpermits : x.permits a = true) (hact : x.rota.act? s.recurring.length a = some rota) :
    Step w s x (.inner a) (x.after w s rota a)
  | close (hw : x.isWaiting = true) (hasked : x.isAsked = false) (hclosed : x.isClosed s = true) :
    Step w s x .close { x with rota := { x.rota with worker := .stopped } }
  | endTimer (i : ℕ) (hplace : x.place = .recurring) (hw : x.rota.worker = .stopped) :
    Step w s x (.endTimer i) { x with isEnded := Interleaving.State.put x.isEnded i true }
  | leave (hleave : x.place = .recurring ∧ x.rota.worker = .stopped ∨
      x.place = .between [] ∧ s.recurring = []) : Step w s x .leave { x with place := .closing }
  | conclude (hplace : x.place = .closing) : Step w s x .conclude { x with
      place := .over, world := (w.info "all done" x.world).2 }
  | request (hasked : x.isAsked = false) : Step w s x .request { x with isAsked := true }
  | elapse (world : σ) (hw : x.isWaiting = true) : Step w s x (.elapse world) { x with world }

lemma step_of_move (h : x.move? w s m = some y) : Step w s x m y := by
  cases m with
  | awaitDaemon =>
    obtain ⟨hplace, ⟨⟩⟩ := Option.ite_none_right_eq_some.1 h
    exact .awaitDaemon hplace
  | begin t =>
    simp only [move?] at h
    split at h
    · rename_i u left hplace
      obtain ⟨rfl, ⟨⟩⟩ := Option.ite_none_right_eq_some.1 h
      exact .begin u left hplace
    · cases h
  | complete t =>
    simp only [move?] at h
    split at h
    · rename_i u left hplace
      obtain ⟨rfl, ⟨⟩⟩ := Option.ite_none_right_eq_some.1 h
      exact .complete u left hplace
    · cases h
  | enter =>
    obtain ⟨⟨hplace, hs⟩, ⟨⟩⟩ := Option.ite_none_right_eq_some.1 h
    exact .enter hplace hs
  | announce =>
    obtain ⟨⟨hplace, hw, hsilent⟩, ⟨⟩⟩ := Option.ite_none_right_eq_some.1 h
    exact .announce hplace hw hsilent
  | inner a =>
    obtain ⟨⟨hplace, hpermits⟩, h⟩ := Option.ite_none_right_eq_some.1 h
    obtain ⟨rota, hact, rfl⟩ := Option.map_eq_some_iff.1 h
    exact .inner a rota hplace hpermits hact
  | close =>
    obtain ⟨⟨hw, hasked, hclosed⟩, ⟨⟩⟩ := Option.ite_none_right_eq_some.1 h
    exact .close hw hasked hclosed
  | endTimer i =>
    obtain ⟨⟨hplace, hw⟩, ⟨⟩⟩ := Option.ite_none_right_eq_some.1 h
    exact .endTimer i hplace hw
  | leave =>
    obtain ⟨hleave, ⟨⟩⟩ := Option.ite_none_right_eq_some.1 h
    exact .leave hleave
  | conclude =>
    obtain ⟨hplace, ⟨⟩⟩ := Option.ite_none_right_eq_some.1 h
    exact .conclude hplace
  | request =>
    obtain ⟨hasked, ⟨⟩⟩ := Option.ite_none_right_eq_some.1 h
    exact .request hasked
  | elapse world =>
    obtain ⟨hw, ⟨⟩⟩ := Option.ite_none_right_eq_some.1 h
    exact .elapse world hw

lemma move?_inner {rota : Interleaving.State} (hplace : x.place = .recurring)
    (hpermits : x.permits a = true) (hact : x.rota.act? s.recurring.length a = some rota) :
    x.move? w s (.inner a) = some (x.after w s rota a) := by
  rw [move?, if_pos ⟨hplace, hpermits⟩, hact, Option.map_some]

lemma run?_append_cons (h : x.run? w s (ms ++ m :: ns) = some z) :
    ∃ y y', x.run? w s ms = some y ∧ y.move? w s m = some y' ∧ y'.run? w s ns = some z := by
  rw [run?_append] at h
  obtain ⟨y, hy, h⟩ := Option.bind_eq_some_iff.1 h
  obtain ⟨y', hy', h⟩ := Option.bind_eq_some_iff.1 h
  exact ⟨y, y', hy, hy', h⟩

/-! ### Timers and the queue -/

/-- What is true in every state that a course leads to. -/
structure IsSound (s : Schedule) (x : State σ) : Prop where
  recurring : x.place = .recurring → s.recurring ≠ []
  balanced : x.place = .recurring → x.rota.IsBalanced s.recurring.length
  /-- Timers outlast the work on the queue. -/
  timers : x.place = .recurring → x.rota.worker ≠ .stopped → ∀ i, x.isEnded i = false
  stopped : x.place = .recurring → x.rota.worker = .stopped → x.isAsked = true
  left : x.place = .closing ∨ x.place = .over → s.recurring ≠ [] → x.isAsked = true

lemma isSound_initial (world : σ) : (initial world).IsSound s :=
  ⟨nofun, nofun, nofun, nofun, by rintro (h | h) <;> cases h⟩

namespace IsSound

lemma isClosed (hx : x.IsSound s) (hw : x.isWaiting = true) : x.isClosed s = false := by
  obtain ⟨hplace, hworker, -⟩ := isWaiting_iff.1 hw
  obtain ⟨t, ts, hs⟩ := List.exists_cons_of_ne_nil (hx.recurring hplace)
  have halive := hx.timers hplace (by rw [hworker]; decide) 0
  rw [State.isClosed, Bool.and_eq_false_iff, List.all_eq_false]
  exact .inr ⟨0, by simp [hs], by simp [halive]⟩

lemma close (hx : x.IsSound s) : x.move? w s .close = none := by
  rw [move?, if_neg]
  rintro ⟨hw, -, hclosed⟩
  rw [hx.isClosed hw] at hclosed
  cases hclosed

lemma move (hx : x.IsSound s) (h : x.move? w s m = some y) : y.IsSound s := by
  cases step_of_move h with
  | awaitDaemon hplace | begin t left hplace | complete t left hplace =>
    exact ⟨nofun, nofun, nofun, nofun, by rintro (h | h) <;> cases h⟩
  | enter hplace hs =>
    exact ⟨fun _ => hs, fun _ => Interleaving.State.isBalanced_initial, fun _ _ _ => rfl,
      fun _ => nofun, by rintro (h | h) <;> cases h⟩
  | inner a rota hplace hpermits hact =>
    have hstopped := Interleaving.State.stopped_act hact
    refine ⟨fun _ => hx.recurring hplace, fun _ => ?_, fun _ hw => ?_, fun _ hw => ?_, ?_⟩
    · rw [after_rota]
      exact (hx.balanced hplace).act hact
    · rw [after_rota] at hw
      rw [after_isEnded]
      exact hx.timers hplace fun hw' => hw (hstopped.2 (.inl hw'))
    · rw [after_rota] at hw
      rw [after_isAsked]
      rcases hstopped.1 hw with hw | rfl
      · exact hx.stopped hplace hw
      · simp only [permits, Bool.and_eq_true] at hpermits
        exact hpermits.2
    · rw [after_place, hplace]
      rintro (h | h) <;> cases h
  | close hw hasked hclosed =>
    rw [hx.isClosed hw] at hclosed
    cases hclosed
  | endTimer i hplace hw =>
    exact ⟨hx.recurring, hx.balanced, fun _ hw' => absurd hw hw', hx.stopped, hx.left⟩
  | leave hleave =>
    refine ⟨nofun, nofun, nofun, nofun, fun _ hs => ?_⟩
    rcases hleave with ⟨hplace, hw⟩ | ⟨-, hs'⟩
    · exact hx.stopped hplace hw
    · exact absurd hs' hs
  | conclude hplace => exact ⟨nofun, nofun, nofun, nofun, fun _ => hx.left (.inl hplace)⟩
  | request => exact ⟨hx.recurring, hx.balanced, hx.timers, fun _ _ => rfl, fun _ _ => rfl⟩
  | announce | elapse =>
    exact ⟨hx.recurring, hx.balanced, hx.timers, hx.stopped, hx.left⟩

lemma run (hx : x.IsSound s) (h : x.run? w s ms = some y) : y.IsSound s := by
  induction ms generalizing x with
  | nil =>
    cases h
    exact hx
  | cons m ms ih =>
    obtain ⟨x', hm, h⟩ := Option.bind_eq_some_iff.1 h
    exact ih (hx.move hm) h

end IsSound

/-! ### The order of the runs -/

def inProgress (s : Schedule) (r : Interleaving.State) : List Task :=
  match r.worker with
  | .running i => s.recurring[i]?.toList
  | _ => []

lemma inProgress_act {r t : Interleaving.State} {n : ℕ} (h : r.act? n a = some t) :
    inProgress s r ++ (Move.inner a : Move σ).begun s =
      (Move.inner a : Move σ).completed s ++ inProgress s t := by
  cases a with
  | raise i | drop i | post i =>
    simp only [Interleaving.State.act?, Option.ite_none_right_eq_some, Option.some.injEq] at h
    obtain ⟨-, rfl⟩ := h
    exact List.append_nil _
  | receive i | start i | finish i | stop =>
    simp only [Interleaving.State.act?, Option.ite_none_right_eq_some, Option.some.injEq] at h
    obtain ⟨hw, rfl⟩ := h
    simp [inProgress, hw, Move.begun, Move.completed]

lemma mem_completed_inner {t : Task} (h : t ∈ (Move.inner a : Move σ).completed s) :
    t ∈ s.recurring := by
  cases a with
  | finish i => exact List.mem_of_getElem? (Option.mem_toList.1 h)
  | raise i | drop i | post i | receive i | start i | stop => cases h

/-- Where the program is, in terms of the tasks that have begun to run, `b`, and those that have run
to their end, `c`. -/
def IsOnTrack (s : Schedule) (x : State σ) (b c : List Task) : Prop :=
  match x.place with
  | .opening => b = [] ∧ c = []
  | .between left => b = c ∧ c ++ left = s.onceOnly
  | .within t left => b = c ++ [t] ∧ b ++ left = s.onceOnly
  | .recurring => ∃ again, (∀ t ∈ again, t ∈ s.recurring) ∧ c = s.onceOnly ++ again ∧
    b = c ++ inProgress s x.rota
  | _ => ∃ again, (∀ t ∈ again, t ∈ s.recurring) ∧ c = s.onceOnly ++ again ∧ b = c

namespace IsOnTrack

lemma move (hx : x.IsOnTrack s b c) (h : x.move? w s m = some y) :
    y.IsOnTrack s (b ++ m.begun s) (c ++ m.completed s) := by
  rw [IsOnTrack] at hx
  cases step_of_move h with
  | awaitDaemon hplace =>
    rw [hplace] at hx
    obtain ⟨rfl, rfl⟩ := hx
    exact ⟨rfl, rfl⟩
  | begin t left hplace =>
    rw [hplace] at hx
    obtain ⟨rfl, hleft⟩ := hx
    exact ⟨by simp [Move.begun, Move.completed], by simp [Move.begun, hleft]⟩
  | complete t left hplace =>
    rw [hplace] at hx
    obtain ⟨rfl, hleft⟩ := hx
    exact ⟨by simp [Move.begun, Move.completed], by simpa [Move.completed] using hleft⟩
  | enter hplace =>
    rw [hplace] at hx
    obtain ⟨rfl, hleft⟩ := hx
    exact ⟨[], nofun, by simpa [Move.completed] using hleft, by
      simp [Move.begun, Move.completed, inProgress, Interleaving.State.initial]⟩
  | inner a rota hplace hpermits hact =>
    rw [hplace] at hx
    obtain ⟨again, hagain, rfl, rfl⟩ := hx
    rw [IsOnTrack, after_place, hplace]
    refine ⟨again ++ (Move.inner a : Move σ).completed s, fun t ht => ?_,
      List.append_assoc _ _ _, ?_⟩
    · exact (List.mem_append.1 ht).elim (hagain t) mem_completed_inner
    · rw [after_rota, List.append_assoc, inProgress_act hact, List.append_assoc, List.append_assoc,
        List.append_assoc]
  | close hw =>
    obtain ⟨hplace, hworker, -⟩ := isWaiting_iff.1 hw
    rw [hplace] at hx
    simpa [IsOnTrack, hplace, Move.begun, Move.completed, inProgress, hworker] using hx
  | leave hleave =>
    obtain ⟨hplace, hw⟩ | ⟨hplace, -⟩ := hleave
    · rw [hplace] at hx
      simpa [IsOnTrack, Move.begun, Move.completed, inProgress, hw] using hx
    · rw [hplace] at hx
      obtain ⟨rfl, hleft⟩ := hx
      exact ⟨[], nofun, by simpa [Move.completed] using hleft, by
        simp [Move.begun, Move.completed]⟩
  | conclude hplace =>
    rw [hplace] at hx
    simpa [IsOnTrack, Move.begun, Move.completed] using hx
  | announce | endTimer | request | elapse =>
    simpa [IsOnTrack, Move.begun, Move.completed] using hx

lemma run (hx : x.IsOnTrack s b c) (h : x.run? w s ms = some y) :
    y.IsOnTrack s (b ++ begun s ms) (c ++ completed s ms) := by
  induction ms generalizing x b c with
  | nil =>
    cases h
    simpa [begun, completed] using hx
  | cons m ms ih =>
    obtain ⟨x', hm, h⟩ := Option.bind_eq_some_iff.1 h
    have hy := ih (hx.move hm) h
    rwa [List.append_assoc, List.append_assoc] at hy

end IsOnTrack

lemma isOnTrack_run {world : σ} (h : (initial world).run? w s ms = some x) :
    x.IsOnTrack s (begun s ms) (completed s ms) := by
  have hstart : (initial world).IsOnTrack s [] [] := ⟨rfl, rfl⟩
  simpa using hstart.run h

end State

end Process

end RegistrySync.Schedule
