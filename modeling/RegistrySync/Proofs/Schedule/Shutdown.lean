import RegistrySync.Proofs.Schedule.Execution

/-!
How a schedule begins, and how it ends.

Once a stop is asked for, no task is taken off the queue. Up to where the program sees the request,
everything goes as it would without it, the run under way included. The program does not end before,
unless there are no recurring tasks, and it never gets stuck.
-/

namespace RegistrySync.Schedule.Process

open Interleaving (Action)

variable {σ : Type} {w : World σ} {s : Schedule} {ms : List (Move σ)} {m : Move σ}

def Move.isRequest : Move σ → Bool
  | .request => true
  | _ => false

/-- Whether it is the program or one of its timers that moves. -/
def Move.isOwn : Move σ → Bool
  | .request | .elapse _ => false
  | _ => true

def withoutRequests (ms : List (Move σ)) : List (Move σ) := ms.filter fun m => !m.isRequest

namespace State

variable {x y z : State σ} {i : ℕ}

/-! ### Requests -/

lemma isAsked_move (h : x.move? w s m = some y) :
    y.isAsked = true ↔ x.isAsked = true ∨ m = .request := by
  cases step_of_move h <;> simp

lemma isAsked_run (h : x.run? w s ms = some y) :
    y.isAsked = true ↔ x.isAsked = true ∨ .request ∈ ms := by
  induction ms generalizing x with
  | nil =>
    cases h
    simp
  | cons m ms ih =>
    obtain ⟨x', hm, h⟩ := Option.bind_eq_some_iff.1 h
    rw [ih h, isAsked_move hm, List.mem_cons, or_assoc, eq_comm (a := m)]

lemma not_receive (hx : x.isAsked = true) : x.move? w s (.inner (.receive i)) = none := by
  rw [move?, if_neg]
  rintro ⟨-, hpermits⟩
  simp [permits, hx] at hpermits

lemma received_move (hx : x.isAsked = true) (h : x.move? w s m = some y)
    (hy : y.rota.worker = .received i) : x.rota.worker = .received i := by
  cases step_of_move h with
  | inner a rota hplace hpermits hact =>
    rw [after_rota] at hy
    rcases Interleaving.State.received_act hact hy with hw | rfl
    · exact hw
    · rw [not_receive hx] at h
      cases h
  | enter | close => cases hy
  | awaitDaemon | begin | complete | announce | endTimer | leave | conclude | request | elapse =>
    exact hy

lemma received_run (hx : x.isAsked = true) (h : x.run? w s ms = some y)
    (hy : y.rota.worker = .received i) : x.rota.worker = .received i := by
  induction ms generalizing x with
  | nil =>
    cases h
    exact hy
  | cons m ms ih =>
    obtain ⟨x', hm, h⟩ := Option.bind_eq_some_iff.1 h
    exact received_move hx hm (ih ((isAsked_move hm).2 (.inl hx)) h)

lemma starts_after (hx : x.isAsked = true) (h : x.run? w s ms = some y) :
    .inner (.receive i) ∉ ms ∧ (.inner (.start i) ∈ ms → x.rota.worker = .received i) := by
  refine ⟨fun hm => ?_, fun hm => ?_⟩
  all_goals
    obtain ⟨before, after, rfl⟩ := List.append_of_mem hm
    obtain ⟨z, z', hz, hmove, -⟩ := run?_append_cons h
    have hasked := (isAsked_run hz).2 (.inl hx)
  · rw [not_receive hasked] at hmove
    cases hmove
  · cases step_of_move hmove with
    | inner a rota hplace hpermits hact =>
      exact received_run hx hz (Interleaving.State.of_start hact)

/-! ### Without a request -/

/-- The state as it is if nobody has asked for a stop. -/
def unasked (x : State σ) : State σ := { x with isAsked := false }

lemma unasked_request (h : x.move? w s .request = some y) : y.unasked = x.unasked := by
  cases step_of_move h
  rfl

lemma unasked_move (hm : m.isRequest = false) (hstop : m ≠ .inner .stop)
    (h : x.move? w s m = some y) : x.unasked.move? w s m = some y.unasked := by
  cases step_of_move h with
  | request => cases hm
  | begin t left hplace | complete t left hplace => simp [move?, unasked, hplace]
  | inner a rota hplace hpermits hact =>
    have hpermits' : x.unasked.permits a = true := by
      cases a with
      | receive i =>
        simp only [permits, Bool.and_eq_true] at hpermits ⊢
        exact ⟨hpermits.1, rfl⟩
      | stop => exact absurd rfl hstop
      | raise i | drop i | post i | start i | finish i => exact hpermits
    rw [move?_inner (x := x.unasked) hplace hpermits' hact]
    cases a <;> rfl
  | close hw hasked hclosed => exact if_pos ⟨hw, rfl, hclosed⟩
  | awaitDaemon hcan | leave hcan | conclude hcan | elapse _ hcan => exact if_pos hcan
  | enter hplace hs => exact if_pos ⟨hplace, hs⟩
  | announce hplace hw hsilent => exact if_pos ⟨hplace, hw, hsilent⟩
  | endTimer i hplace hw => exact if_pos ⟨hplace, hw⟩

/-- As long as the program has not stopped, a request changes nothing. -/
lemma unasked_run (hstop : .inner .stop ∉ ms) (h : x.run? w s ms = some y) :
    x.unasked.run? w s (withoutRequests ms) = some y.unasked := by
  induction ms generalizing x with
  | nil =>
    cases h
    rfl
  | cons m ms ih =>
    obtain ⟨hm, hms⟩ := not_or.1 (mt List.mem_cons.2 hstop)
    obtain ⟨x', hmove, hrest⟩ := Option.bind_eq_some_iff.1 h
    rw [withoutRequests, List.filter_cons]
    cases hrequest : m.isRequest with
    | true =>
      obtain rfl : m = .request := by
        cases m <;> first | rfl | cases hrequest
      rw [← unasked_request hmove]
      exact ih hms hrest
    | false =>
      rw [Bool.not_false, if_pos rfl, run?_cons, unasked_move hrequest (Ne.symm hm) hmove]
      exact ih hms hrest

/-! ### The end -/

lemma over_move (hx : x.place = .over) (h : x.move? w s m = some y) :
    m = .request ∧ y.place = .over ∧ y.world = x.world := by
  cases step_of_move h with
  | request => exact ⟨rfl, hx, rfl⟩
  | awaitDaemon hplace | begin _ _ hplace | complete _ _ hplace | enter hplace | announce hplace
  | inner _ _ hplace | endTimer _ hplace | conclude hplace =>
    rw [hx] at hplace
    cases hplace
  | close hw | elapse _ hw =>
    rw [isWaiting_iff, hx] at hw
    cases hw.1
  | leave hleave =>
    rw [hx] at hleave
    rcases hleave with ⟨hplace, -⟩ | ⟨hplace, -⟩ <;> cases hplace

lemma over_run (hx : x.place = .over) (h : x.run? w s ms = some y) :
    (∀ m ∈ ms, m = .request) ∧ y.world = x.world := by
  induction ms generalizing x with
  | nil =>
    cases h
    exact ⟨nofun, rfl⟩
  | cons m ms ih =>
    obtain ⟨x', hm, hrest⟩ := Option.bind_eq_some_iff.1 h
    obtain ⟨rfl, hplace, hworld⟩ := over_move hx hm
    obtain ⟨hms, hy⟩ := ih hplace hrest
    exact ⟨List.forall_mem_cons.2 ⟨rfl, hms⟩, hy.trans hworld⟩

lemma conclude_move (hx : x.place ≠ .over) (h : x.move? w s m = some y) (hy : y.place = .over) :
    m = .conclude ∧ y.world = (w.info "all done" x.world).2 := by
  cases step_of_move h with
  | conclude => exact ⟨rfl, rfl⟩
  | awaitDaemon | begin | complete | enter | leave => cases hy
  | inner a rota =>
    rw [after_place] at hy
    exact absurd hy hx
  | announce | close | endTimer | request | elapse => exact absurd hy hx

lemma exists_conclude (hx : x.place ≠ .over) (h : x.run? w s ms = some y) (hy : y.place = .over) :
    ∃ before z after, ms = before ++ .conclude :: after ∧ x.run? w s before = some z ∧
      y.world = (w.info "all done" z.world).2 ∧ ∀ m ∈ after, m = .request := by
  induction ms generalizing x with
  | nil =>
    cases h
    exact absurd hy hx
  | cons m ms ih =>
    obtain ⟨x', hm, hrest⟩ := Option.bind_eq_some_iff.1 h
    by_cases hx' : x'.place = .over
    · obtain ⟨rfl, hworld⟩ := conclude_move hx hm hx'
      obtain ⟨hms, hy⟩ := over_run hx' hrest
      exact ⟨[], x, ms, rfl, rfl, hy.trans hworld, hms⟩
    · obtain ⟨before, z, after, rfl, hz, hworld, hafter⟩ := ih hx' hrest
      refine ⟨m :: before, z, after, rfl, ?_, hworld, hafter⟩
      rw [run?_cons, hm, Option.bind_some, hz]

/-! ### Nothing gets stuck -/

lemma exists_inner (hx : x.IsSound s) (hplace : x.place = .recurring)
    (hwaiting : x.rota.worker = .waiting → x.isAnnounced = true) (hw : x.rota.worker ≠ .stopped) :
    ∃ a y, x.move? w s (.inner a) = some y := by
  have hact {a : Action} (hpermits : x.permits a = true)
      (h : (x.rota.act? s.recurring.length a).isSome) : ∃ a y, x.move? w s (.inner a) = some y := by
    obtain ⟨rota, hrota⟩ := Option.isSome_iff_exists.1 h
    exact ⟨a, _, move?_inner hplace hpermits hrota⟩
  rcases hworker : x.rota.worker with _ | i | i | _
  · have hwaits : x.isWaiting = true := isWaiting_iff.2 ⟨hplace, hworker, hwaiting hworker⟩
    cases hasked : x.isAsked with
    | true =>
      exact hact (a := .stop) (by simp [permits, hwaits, hasked])
        (by simp [Interleaving.State.act?, hworker])
    | false =>
      rcases hqueue : x.rota.queue with _ | ⟨i, queue⟩
      · -- nothing waits, so the first timer has its task to post or its mark is clear
        have hn := List.length_pos_of_ne_nil (hx.recurring hplace)
        have halive := hx.timers hplace hw 0
        cases hposting : x.rota.posting 0 with
        | true =>
          exact hact (a := .post 0) (by simp [permits, halive])
            (by simp [Interleaving.State.act?, hposting, hqueue, hn])
        | false =>
          have hmarked : x.rota.marked 0 = false := by
            refine Bool.eq_false_iff.2 fun hm => ?_
            have := (hx.balanced hplace).marked_iff.1 hm
            simp [Interleaving.State.IsOutstanding, hposting, hqueue, hworker] at this
          exact hact (a := .raise 0) (by simp [permits, halive])
            (by simp [Interleaving.State.act?, Interleaving.State.canTick, hposting, hmarked, hn])
      · exact hact (a := .receive i) (by simp [permits, hwaits, hasked])
          (by simp [Interleaving.State.act?, hworker, hqueue])
  · exact hact (a := .start i) rfl (by simp [Interleaving.State.act?, hworker])
  · exact hact (a := .finish i) rfl (by simp [Interleaving.State.act?, hworker])
  · exact absurd hworker hw

/-- As long as the program is not over, it or one of its timers can move. -/
lemma exists_move (hx : x.IsSound s) (hover : x.place ≠ .over) :
    ∃ m y, m.isOwn = true ∧ x.move? w s m = some y := by
  have hmove {m : Move σ} (hm : m.isOwn = true) (h : (x.move? w s m).isSome) :
      ∃ m y, m.isOwn = true ∧ x.move? w s m = some y := by
    obtain ⟨y, hy⟩ := Option.isSome_iff_exists.1 h
    exact ⟨m, y, hm, hy⟩
  rcases hplace : x.place with _ | (_ | ⟨t, left⟩) | ⟨t, left⟩ | _ | _ | _
  · exact hmove (m := .awaitDaemon) rfl (by simp [move?, hplace])
  · by_cases hs : s.recurring = []
    · exact hmove (m := .leave) rfl (by simp [move?, hplace, hs])
    · exact hmove (m := .enter) rfl (by simp [move?, hplace, hs])
  · exact hmove (m := .begin t) rfl (by simp [move?, hplace])
  · exact hmove (m := .complete t) rfl (by simp [move?, hplace])
  · by_cases hstopped : x.rota.worker = .stopped
    · exact hmove (m := .leave) rfl (by simp [move?, hplace, hstopped])
    · by_cases hsilent : x.rota.worker = .waiting ∧ x.isAnnounced = false
      · exact hmove (m := .announce) rfl (by simp [move?, hplace, hsilent])
      · have hwaiting : x.rota.worker = .waiting → x.isAnnounced = true := fun hw =>
          Bool.ne_false_iff.1 fun hsaid => hsilent ⟨hw, hsaid⟩
        obtain ⟨a, y, hy⟩ := exists_inner hx hplace hwaiting hstopped
        exact ⟨.inner a, y, rfl, hy⟩
  · exact hmove (m := .conclude) rfl (by simp [move?, hplace])
  · exact absurd hplace hover

end State

end RegistrySync.Schedule.Process
