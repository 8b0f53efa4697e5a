import RegistrySync.Proofs.Schedule.Shutdown

/-!
The life of a schedule, from the first wait for the daemon to the last line.

What the invariants say state by state is put together here for whole courses: which tasks run and
in which order, what a request to stop does and what it leaves alone, and how the program ends. The
run with a clock is one of these courses, and keeps to the clock.
-/

namespace RegistrySync.Schedule.Process

variable {σ : Type} {w : World σ} {s : Schedule} {x : State σ} {ms : List (Move σ)}
  {b c : List Task} {t : Task}

/-! ### Tasks and their runs -/

/-- The tasks with interval zero, in their order. -/
def once (s : Schedule) : List Task := s.tasks.filter fun t => decide (t.interval = 0)

lemma onceOnly_eq (s : Schedule) : s.onceOnly = once s :=
  List.filter_congr fun t _ => by rw [Task.isRecurring, bne, Bool.not_not, beq_eq_decide]

lemma mem_recurring : t ∈ s.recurring ↔ t ∈ s.tasks ∧ t.interval ≠ 0 := by
  simp [Schedule.recurring, Task.isRecurring]

lemma recurring_ne_nil : s.recurring ≠ [] ↔ ∃ t ∈ s.tasks, t.interval ≠ 0 := by
  simp [Schedule.recurring, Task.isRecurring]

/-- The world after a run and the line that sums it up. -/
def ran (w : World σ) (t : Task) (u : σ) : σ :=
  match t.run w u with
  | (0, v) => w.print ⟨.info, "task '" ++ t.name ++ "' done"⟩ v
  | (failures, v) => w.print ⟨.warn, "task '" ++ t.name ++ "' finished with " ++
      toString failures ++ " failed mapping(s)"⟩ v

lemma runAndTell_eq (w : World σ) (t : Task) (u : σ) : (t.runAndTell w u).2 = ran w t u := by
  have hrun : t.runAndTell w u = (if (t.run w u).1 = 0 then
      w.info ("task '" ++ t.name ++ "' done")
    else w.say .warn ("task '" ++ t.name ++ "' finished with " ++ toString (t.run w u).1 ++
      " failed mapping(s)")) (t.run w u).2 := rfl
  rw [hrun, ran]
  rcases t.run w u with ⟨_ | failures, v⟩ <;> rfl

/-! ### What is on track -/

lemma State.mem_recurring_of_inProgress {r : Interleaving.State} (ht : t ∈ inProgress s r) :
    t ∈ s.recurring := by
  rw [inProgress] at ht
  split at ht
  · exact List.mem_of_getElem? (Option.mem_toList.1 ht)
  · cases ht

namespace State.IsOnTrack

lemma order (hx : x.IsOnTrack s b c) : b <+: once s ∨
    ∃ again, (∀ t ∈ again, t ∈ s.tasks ∧ t.interval ≠ 0) ∧ b = once s ++ again := by
  simp only [← onceOnly_eq, ← mem_recurring]
  rw [IsOnTrack] at hx
  split at hx
  · obtain ⟨rfl, -⟩ := hx
    exact .inl List.nil_prefix
  · obtain ⟨rfl, hleft⟩ := hx
    exact .inl ⟨_, hleft⟩
  · exact .inl ⟨_, hx.2⟩
  · obtain ⟨again, hagain, rfl, rfl⟩ := hx
    refine .inr ⟨again ++ inProgress s x.rota, fun t ht => ?_, List.append_assoc _ _ _⟩
    exact (List.mem_append.1 ht).elim (hagain t) mem_recurring_of_inProgress
  · obtain ⟨again, hagain, rfl, rfl⟩ := hx
    exact .inr ⟨again, hagain, rfl⟩

lemma single (hx : x.IsOnTrack s b c) : b = c ∨ ∃ t, b = c ++ [t] := by
  rw [IsOnTrack] at hx
  split at hx
  · exact .inl (hx.1.trans hx.2.symm)
  · exact .inl hx.1
  · exact .inr ⟨_, hx.1⟩
  · obtain ⟨again, -, -, rfl⟩ := hx
    rw [inProgress]
    split
    · rcases s.recurring[_]? with _ | t
      · exact .inl (List.append_nil c)
      · exact .inr ⟨t, rfl⟩
    · exact .inl (List.append_nil c)
  · obtain ⟨again, -, -, rfl⟩ := hx
    exact .inl rfl

lemma once_completed (hx : x.IsOnTrack s b c)
    (hplace : x.place = .between [] ∨ x.place = .recurring ∨ x.place = .over) :
    once s <+: c := by
  rw [IsOnTrack] at hx
  rw [← onceOnly_eq]
  rcases hplace with hplace | hplace | hplace
  all_goals rw [hplace] at hx
  · obtain ⟨-, hleft⟩ := hx
    rw [List.append_nil] at hleft
    exact hleft ▸ List.prefix_rfl
  · obtain ⟨again, -, rfl, -⟩ := hx
    exact List.prefix_append _ _
  · obtain ⟨again, -, rfl, -⟩ := hx
    exact List.prefix_append _ _

lemma eq_of_over (hx : x.IsOnTrack s b c) (hplace : x.place = .over) : b = c := by
  rw [IsOnTrack, hplace] at hx
  obtain ⟨again, -, -, hb⟩ := hx
  exact hb

end State.IsOnTrack

/-! ### A whole course -/

/-- What a course from the beginning is like that leads to the state `x`. -/
structure IsOrderly (w : World σ) (s : Schedule) (world : σ) (ms : List (Move σ)) (x : State σ) :
    Prop where
  /-- The tasks that run once begin in their order, each of them once, and after the last of them
  only recurring tasks do. -/
  order : begun s ms <+: once s ∨
    ∃ again, (∀ t ∈ again, t ∈ s.tasks ∧ t.interval ≠ 0) ∧ begun s ms = once s ++ again
  /-- One task runs at a time. -/
  single : begun s ms = completed s ms ∨ ∃ t, begun s ms = completed s ms ++ [t]
  /-- Before the tasks that run once are finished there are no timers, and none does anything. -/
  timers : ∀ before m after, ms = before ++ m :: after → (m = .enter ∨ ∃ a, m = .inner a) →
    once s <+: completed s before
  /-- A run does all that it has to do. -/
  runs : ∀ before m after, ms = before ++ m :: after → ∀ t ∈ m.completed s,
    ∃ y y', (State.initial world).run? w s before = some y ∧ y.move? w s m = some y' ∧
      y'.world = ran w t y.world
  /-- Once a stop is asked for, no task is taken off the queue, and none is started but the one that
  was taken off it before. -/
  request : ∀ before after, ms = before ++ .request :: after →
    ∃ y, (State.initial world).run? w s before = some y ∧ ∀ i, .inner (.receive i) ∉ after ∧
      (.inner (.start i) ∈ after → y.rota.worker = .received i)
  /-- Where the program waits, it stops if that is asked for, and takes no task then. -/
  waiting : x.isWaiting = true → ((x.move? w s (.inner .stop)).isSome = true ↔ x.isAsked = true) ∧
    ∀ i, (x.move? w s (.inner (.receive i))).isSome = true → x.isAsked = false
  /-- Up to where the program stops, everything is as if nobody had asked for it. -/
  unaffected : ∀ before after, ms = before ++ after → .inner .stop ∉ before →
    ∃ y, (State.initial world).run? w s before = some y ∧
      (State.initial world).run? w s (withoutRequests before) = some y.unasked
  /-- The queue is not closed while the program waits. -/
  isOpen : .close ∉ ms ∧ (x.isWaiting = true → x.isClosed s = false)
  /-- With recurring tasks, the program does not leave before a stop is asked for. -/
  leaves : ∀ before after, ms = before ++ .leave :: after → (∃ t ∈ s.tasks, t.interval ≠ 0) →
    .request ∈ before
  /-- At the end all runs are finished, and the last line is told. -/
  ends : x.place = .over → once s <+: completed s ms ∧ begun s ms = completed s ms ∧
    ∃ before after y, ms = before ++ .conclude :: after ∧
      (State.initial world).run? w s before = some y ∧ (∀ m ∈ after, m = .request) ∧
      x.world = w.print ⟨.info, "all done"⟩ y.world ∧
      ((∃ t ∈ s.tasks, t.interval ≠ 0) → .request ∈ before)
  /-- Before the end, the program or one of its timers can move. -/
  goesOn : x.place ≠ .over → ∃ m y, m.isOwn = true ∧ x.move? w s m = some y

namespace State

variable {world : σ} {y : State σ} {m : Move σ}

lemma isAsked_of_leave (hx : x.IsSound s) (h : x.move? w s .leave = some y)
    (hs : s.recurring ≠ []) : x.isAsked = true := by
  cases step_of_move h with
  | leave hleave =>
    rcases hleave with ⟨hplace, hw⟩ | ⟨-, hs'⟩
    · exact hx.stopped hplace hw
    · exact absurd hs' hs

lemma world_of_completed (h : x.move? w s m = some y) (ht : t ∈ m.completed s) :
    y.world = ran w t x.world := by
  rw [← runAndTell_eq]
  cases step_of_move h with
  | complete u left =>
    obtain rfl := List.mem_singleton.1 ht
    rfl
  | inner a =>
    cases a with
    | finish i => rw [after, Option.mem_toList.1 ht]
    | raise i | drop i | post i | receive i | start i | stop => cases ht
  | awaitDaemon | begin | enter | announce | close | endTimer | leave | conclude | request
  | elapse => cases ht

lemma starts_after_request {before after : List (Move σ)}
    (h : (initial world).run? w s (before ++ .request :: after) = some x) :
    ∃ y, (initial world).run? w s before = some y ∧ ∀ i, .inner (.receive i) ∉ after ∧
      (.inner (.start i) ∈ after → y.rota.worker = .received i) := by
  obtain ⟨y, y', hy, hmove, hafter⟩ := run?_append_cons h
  have hy' : y'.isAsked = true := (isAsked_move hmove).2 (.inr rfl)
  have hrota : y'.rota = y.rota := by
    cases step_of_move hmove
    rfl
  exact ⟨y, hy, fun i => hrota ▸ starts_after hy' hafter⟩

lemma stops_iff (hw : x.isWaiting = true) :
    (x.move? w s (.inner .stop)).isSome = true ↔ x.isAsked = true := by
  obtain ⟨hplace, hworker, -⟩ := isWaiting_iff.1 hw
  simp [move?, permits, hplace, hw, Interleaving.State.act?, hworker]

lemma isAsked_of_run {before : List (Move σ)} (h : (initial world).run? w s before = some y)
    (hy : y.isAsked = true) : .request ∈ before :=
  ((isAsked_run h).1 hy).resolve_left Bool.false_ne_true

lemma concludes (h : (initial world).run? w s ms = some x) (hover : x.place = .over) :
    ∃ before after y, ms = before ++ .conclude :: after ∧
      (initial world).run? w s before = some y ∧ (∀ m ∈ after, m = .request) ∧
      x.world = w.print ⟨.info, "all done"⟩ y.world ∧ (s.recurring ≠ [] → .request ∈ before) := by
  have hstart : (initial world).place ≠ .over := by
    rintro ⟨⟩
  obtain ⟨before, y, after, rfl, hy, hworld, hafter⟩ := exists_conclude hstart h hover
  refine ⟨before, after, y, rfl, hy, hafter, hworld, fun hs => isAsked_of_run hy ?_⟩
  obtain ⟨y₁, y', hy₁, hmove, -⟩ := run?_append_cons h
  obtain rfl := Option.some.inj (hy₁.symm.trans hy)
  cases step_of_move hmove with
  | conclude hplace => exact ((isSound_initial world).run hy).left (.inl hplace) hs

lemma isOrderly_run (h : (initial world).run? w s ms = some x) : IsOrderly w s world ms x := by
  have htrack := isOnTrack_run h
  have hsound := (isSound_initial world).run h
  refine ⟨htrack.order, htrack.single, ?_, ?_, ?_, ?_, ?_, ⟨?_, hsound.isClosed⟩, ?_, ?_,
    exists_move hsound⟩
  · rintro before m after rfl hm
    obtain ⟨y, y', hy, hmove, -⟩ := run?_append_cons h
    refine (isOnTrack_run hy).once_completed ?_
    rcases hm with rfl | ⟨a, rfl⟩
    · cases step_of_move hmove with
      | enter hplace => exact .inl hplace
    · cases step_of_move hmove with
      | inner _ _ hplace => exact .inr (.inl hplace)
  · rintro before m after rfl t ht
    obtain ⟨y, y', hy, hmove, -⟩ := run?_append_cons h
    exact ⟨y, y', hy, hmove, world_of_completed hmove ht⟩
  · rintro before after rfl
    exact starts_after_request h
  · refine fun hw => ⟨stops_iff hw, fun i hi => Bool.eq_false_iff.2 fun hx => ?_⟩
    rw [not_receive hx] at hi
    cases hi
  · rintro before after rfl hstop
    rw [run?_append] at h
    obtain ⟨y, hy, -⟩ := Option.bind_eq_some_iff.1 h
    exact ⟨y, hy, unasked_run hstop hy⟩
  · intro hm
    obtain ⟨before, after, rfl⟩ := List.append_of_mem hm
    obtain ⟨y, y', hy, hmove, -⟩ := run?_append_cons h
    rw [((isSound_initial world).run hy).close] at hmove
    cases hmove
  · rintro before after rfl hs
    obtain ⟨y, y', hy, hmove, -⟩ := run?_append_cons h
    exact isAsked_of_run hy
      (isAsked_of_leave ((isSound_initial world).run hy) hmove (recurring_ne_nil.2 hs))
  · rw [← recurring_ne_nil]
    exact fun hover =>
      ⟨htrack.once_completed (.inr (.inr hover)), htrack.eq_of_over hover, concludes h hover⟩

/-- **The life of a schedule.** Whatever the daemon answers, whatever the tasks come to, however the
timers tick and whenever a stop is asked for, a course of the program is orderly. And whatever a
schedule does with a steady clock is such a course, and one that keeps to the clock: each time that
the program begins to wait it asks the clock whether to stop, before it takes a task off the queue.
If the clock says yes the program stops there and then, and otherwise it goes on. It comes to its
end where the course does; short of that, it takes as many recurring runs as it may, unless they are
enough before. -/
theorem run_is_orderly (w : World σ) (s : Schedule) (world : σ) :
    (∀ ms x, (initial world).run? w s ms = some x → IsOrderly w s world ms x) ∧
    ∀ c : Clock σ, c.IsSteady → ∀ enough n, ∃ ms x, KeepsToClock w c s (initial world) ms x ∧
      IsOrderly w s world ms x ∧ x.world = (s.run w c enough n world).2 ∧
      ((s.run w c enough n world).1 = true ↔ x.place = .over) ∧ once s <+: completed s ms ∧
      (x.place = .over ∨ enough x.world = true ∨
        (completed s ms).length = (once s).length + n) := by
  refine ⟨fun ms x => isOrderly_run, fun c hc enough n => ?_⟩
  obtain ⟨ms, x, hms, hworld, hplace⟩ := exists_course (w := w) (s := s) hc enough n world
  have hrun := hms.run?
  rw [onceOnly_eq] at hplace
  refine ⟨ms, x, hms, isOrderly_run hrun, hworld, ?_, ?_, ?_⟩
  · rcases hplace with ⟨hover, hyes⟩ | ⟨hrecurring, hno, -⟩
    · simp [hover, hyes]
    · simp [hrecurring, hno]
  · exact (isOnTrack_run hrun).once_completed
      (hplace.elim (fun h => .inr (.inr h.1)) fun h => .inr (.inl h.1))
  · exact hplace.imp And.left fun h => h.2.2

/-- A stop that is asked for when a task is taken off the queue. The task runs to its end, and the
tick that comes meanwhile is left in the queue. And a run with a clock, in which every call takes
two and a half seconds to fail: after the stop the recurring task, whose next tick is due by then,
is not run again. Without the stop it is. -/
theorem run_is_orderly_stopped :
    (let t (interval : ℕ) : Task := ⟨"", ⟨"", ""⟩, ⟨"", ""⟩, [], interval, false⟩
      let s : Schedule := ⟨[t 1000, t 0], ⟨1, 0⟩⟩
      let w : World Unit := ⟨fun _ _ => (.error (.network ""), ()), fun _ _ => ()⟩
      let ms : List (Move Unit) := [.awaitDaemon, .begin (t 0), .complete (t 0), .enter, .announce,
        .inner (.raise 0), .inner (.post 0), .inner (.receive 0), .request, .inner (.start 0),
        .inner (.raise 0), .inner (.post 0), .inner (.finish 0), .announce, .inner .stop, .leave,
        .conclude]
      ∃ x, (initial ()).run? w s ms = some x ∧ x.place = .over ∧ x.rota.queue = [0] ∧
        completed s ms = [t 0, t 1000]) ∧
    let t (name : String) (interval : ℕ) : Task := ⟨name, ⟨"hub.example", ""⟩, ⟨"near.example", ""⟩,
      [⟨"/" ++ name, "/" ++ name, []⟩], interval, false⟩
    let s : Schedule := ⟨[t "often" 1000, t "once" 0], ⟨1, 0⟩⟩
    let failing : World Script.State :=
      ⟨fun _ u => (.error (.network ""), { u with time := u.time + 2500 }), fun _ u => u⟩
    let w := failing.stamped (·.time)
    let run (h : Horizon) :=
      s.run w h.clock (fun u => h.isGivenUp u.1.time) 9 (Script.start, [])
    let calls (h : Horizon) :=
      (run h).2.2.reverse.filterMap fun e => e.2.call?.map fun call => (e.1, call)
    (Horizon.stopAt 6500).clock.IsSteady ∧ (run (.stopAt 6500)).1 = true ∧
    calls (.stopAt 6500) = [(0, .ping 1 0), (2500, .pull "hub.example/once" "" true false),
      (5000, .pull "hub.example/often" "" true false)] ∧
    (run (.stopAt 6500)).2.2.take 2 =
      [(7500, .line ⟨.info, "all done"⟩), (7500, .line ⟨.info, "shutdown requested"⟩)] ∧
    (∃ ms x, KeepsToClock w (Horizon.stopAt 6500).clock s (initial (Script.start, [])) ms x ∧
      x.world = (run (.stopAt 6500)).2 ∧ x.place = .over) ∧
    calls (.giveUpAt 7500) = [(0, .ping 1 0), (2500, .pull "hub.example/once" "" true false),
      (5000, .pull "hub.example/often" "" true false),
      (7500, .pull "hub.example/often" "" true false)] := by
  constructor
  · intro t s w ms
    obtain ⟨x, hx⟩ : ∃ x, (initial ()).run? w s ms = some x :=
      Option.isSome_iff_exists.1 (by decide +kernel)
    have hplace : ((initial ()).run? w s ms).map State.place = some .over := by decide +kernel
    have hqueue : ((initial ()).run? w s ms).map (fun y => y.rota.queue) = some [0] := by
      decide +kernel
    rw [hx] at hplace hqueue
    have hbegun : begun s ms = [t 0, t 1000] := by decide +kernel
    obtain ⟨-, hends, -⟩ :=
      ((run_is_orderly w s ()).1 ms x hx).ends (Option.some.inj hplace)
    exact ⟨x, hx, Option.some.inj hplace, Option.some.inj hqueue, hends.symm.trans hbegun⟩
  · intro t s failing w run calls
    have hsteady := Horizon.isSteady_clock (.stopAt 6500)
    have hover : (run (.stopAt 6500)).1 = true := by decide +kernel
    obtain ⟨ms, x, hms, -, hworld, hplace, -⟩ := (run_is_orderly w s (Script.start, [])).2 _ hsteady
      (fun u => (Horizon.stopAt 6500).isGivenUp u.1.time) 9
    exact ⟨hsteady, hover, by decide +kernel, by decide +kernel,
      ⟨ms, x, hms, hworld, hplace.1 hover⟩, by decide +kernel⟩

end State

end RegistrySync.Schedule.Process
