import RegistrySync.Proofs.Schedule.Timed
import RegistrySync.Schedule.Timeline

/-!
The rota of a single task in time.

A rota looks at its ticks only between two runs. What it does is a course in time all the same: the
ticks during a run set the mark or find it set, one after the other, and are worked off together
when the run is over. So its task runs at the pace that all courses have.
-/

namespace RegistrySync

variable {σ : Type}

/-- Time passes while the task runs, the same for each run, and while the program waits. A stop is
asked for at an instant. -/
structure Clock.IsExact (c : Clock σ) (w : World σ) (t : Task) (length stop : ℕ) : Prop where
  print : ∀ l u, c.now (w.print l u) = c.now u
  run : ∀ u, c.now (t.runAndTell w u).2 = c.now u + length
  asked : ∀ due u, (c.wait due u).1 = decide (stop ≤ max (c.now u) due)
  waited : ∀ due u, max (c.now u) due < stop → c.now (c.wait due u).2 = max (c.now u) due

lemma Clock.IsExact.wait_cases {c : Clock σ} {w : World σ} {t : Task} {length stop : ℕ}
    (hc : c.IsExact w t length stop) (due : ℕ) (u : σ) :
    (stop ≤ max (c.now u) due ∧ ∃ v, c.wait due u = (true, v)) ∨
      max (c.now u) due < stop ∧ ∃ v, c.wait due u = (false, v) ∧ c.now v = max (c.now u) due := by
  have hasked := hc.asked due u
  have hwaited := hc.waited due u
  rcases hwait : c.wait due u with ⟨asked, v⟩
  rw [hwait] at hasked hwaited
  rcases Nat.lt_or_ge (max (c.now u) due) stop with hlt | hge
  · rw [decide_eq_false (Nat.not_le.2 hlt)] at hasked
    exact .inr ⟨hlt, v, by rw [← hasked], hwaited hlt⟩
  · rw [decide_eq_true hge] at hasked
    exact .inl ⟨hge, v, by rw [← hasked]⟩

namespace Schedule

variable {w : World σ} {c : Clock σ} {t : Task} {interval length stop due : ℕ} {u v : σ}

/-! ### A timer -/

lemma Timer.nextDue_of_lt {τ : Timer} {now : ℕ} (h : now < τ.due) : τ.nextDue now = τ.due :=
  if_pos h

lemma Timer.nextDue_of_le {τ : Timer} {now : ℕ} (hI : 0 < τ.interval) (h : τ.due ≤ now) :
    τ.nextDue now = { τ with due := τ.due + τ.interval }.nextDue now := by
  rw [nextDue, if_neg (Nat.not_lt.2 h), nextDue]
  dsimp only
  split
  · rw [Nat.div_eq_of_lt (by omega), Nat.zero_add, Nat.mul_one]
  · rw [Nat.div_eq_sub_div hI (by omega), ← Nat.sub_sub, Nat.mul_add τ.interval (_ + 1),
      Nat.mul_one]
    omega

lemma Timer.nextDue_self {τ : Timer} (hI : 0 < τ.interval) :
    τ.nextDue τ.due = τ.due + τ.interval := by
  rw [nextDue_of_le hI (Nat.le_refl _), nextDue_of_lt]
  exact Nat.lt_add_of_pos_right hI

/-! ### A step of the rota -/

/-- The rota of one task that does not wait. -/
def Rota.alone (interval due : ℕ) (u : σ) : Rota σ := ⟨[⟨interval, due, false⟩], [], u⟩

def tickAfter (interval due now : ℕ) : ℕ := Timer.nextDue ⟨interval, due, false⟩ now

lemma deliver_alone (c : Clock σ) (interval due : ℕ) (u : σ) :
    Rota.deliver c (.alone interval due u) =
    if due ≤ c.now u then ⟨[⟨interval, tickAfter interval due (c.now u), true⟩], [0], u⟩
    else .alone interval due u := by
  split
  · rename_i h
    simp [Rota.deliver, Rota.alone, posted, postsFrom, Timer.posts, insertPost, Timer.advance,
      tickAfter, h]
  · rename_i h
    simp [Rota.deliver, Rota.alone, posted, postsFrom, Timer.posts, Timer.advance, Timer.nextDue, h,
      Nat.not_le.1 h]

lemma now_announceWait (hc : c.IsExact w t length stop) :
    c.now (announceWait w u).2 = c.now u := by
  change c.now (w.print _ (w.print _ (w.print _ u))) = c.now u
  rw [hc.print, hc.print, hc.print]

lemma step_alone (hc : c.IsExact w t length stop) (interval due : ℕ) (u : σ) :
    if stop ≤ max (c.now u) due then
      ∃ v, (Rota.alone interval due u).step w c [t] = .ended v
    else ∃ v, c.now v = max (c.now u) due ∧ (Rota.alone interval due u).step w c [t] = .ongoing
      (.alone interval (tickAfter interval due (max (c.now u) due)) (t.runAndTell w v).2) := by
  have hnow := now_announceWait (u := u) hc
  have hdeliver := deliver_alone c interval due
  simp only [Rota.alone] at hdeliver
  rcases hc.wait_cases (c.now u) (announceWait w u).2 with ⟨hstop, v, hwait⟩ | ⟨hstop, v, hwait, hv⟩
  all_goals
    rw [hnow, Nat.max_self] at hstop
    simp only [Rota.step, Rota.alone, hnow, hwait, hdeliver, if_true, Bool.false_eq_true, if_false]
  · rw [if_pos (Nat.le_trans hstop (Nat.le_max_left _ _))]
    exact ⟨_, rfl⟩
  rw [hnow, Nat.max_self] at hv
  by_cases hdue : due ≤ c.now u
  · rw [hv, if_pos hdue, Nat.max_eq_left hdue, if_neg (Nat.not_le.2 hstop)]
    exact ⟨v, hv, rfl⟩
  -- the tick is still to come
  have hmax : max (c.now u) due = due := Nat.max_eq_right (Nat.le_of_not_le hdue)
  rw [hv, if_neg hdue, hmax]
  rcases hc.wait_cases due v with ⟨hstop', v', hwait'⟩ | ⟨hstop', v', hwait', hv'⟩
  all_goals
    rw [hv, hmax] at hstop'
    simp only [List.isEmpty_nil, earliest, hwait', hdeliver, if_true, Bool.false_eq_true, if_false]
  · rw [if_pos hstop']
    exact ⟨_, rfl⟩
  · rw [hv, hmax] at hv'
    rw [if_neg (Nat.not_le.2 hstop'), hv', if_pos (Nat.le_refl due)]
    exact ⟨v', hv', rfl⟩

namespace Timed

open Interleaving (Action Worker)
open Interleaving.State (act? put)

variable {p : Pace} {now : ℕ} {m : Bool} {x y z : State} {es fs : List Event} {ts us : List ℕ}

namespace State

/-! ### Courses, piece by piece -/

/-- A course of a single task leads from one state to another, and these are the starts in it. -/
def Leads (p : Pace) (x : State) (ts : List ℕ) (y : State) : Prop :=
  ∃ es, x.run? p 1 es = some y ∧ starts x.now es = ts

lemma Leads.refl (x : State) : x.Leads p [] x := ⟨[], rfl, rfl⟩

lemma starts_append (h : x.run? p 1 es = some y) :
    starts x.now (es ++ fs) = starts x.now es ++ starts y.now fs := by
  induction es generalizing x with
  | nil =>
    cases h
    rfl
  | cons e es ih =>
    rw [run?_cons] at h
    obtain ⟨z, he, hz⟩ := Option.bind_eq_some_iff.1 h
    by_cases hstart : ∃ i, e = .act (.start i)
    · obtain ⟨i, rfl⟩ := hstart
      obtain ⟨-, rota, -, rfl⟩ := event?_act.1 he
      have := ih hz
      rw [after_now] at this
      rw [List.cons_append, starts, starts, List.cons_append, this]
    · have he' := not_exists.1 hstart
      rw [List.cons_append, starts_cons he he', starts_cons he he', ih hz]

lemma Leads.trans (h : x.Leads p ts y) (h' : y.Leads p us z) : x.Leads p (ts ++ us) z := by
  obtain ⟨es, hes, rfl⟩ := h
  obtain ⟨fs, hfs, rfl⟩ := h'
  exact ⟨es ++ fs, by rw [run?_append, hes, Option.bind_some, hfs], starts_append hes⟩

lemma leads_event {e : Event} (h : x.event? p 1 e = some y) : x.Leads p (starts x.now [e]) y :=
  ⟨[e], by rw [run?_cons, h]; rfl, rfl⟩

lemma leads_act {a : Action} {rota : Interleaving.State} (hallows : x.allows p a = true)
    (hact : x.rota.act? 1 a = some rota) :
    x.Leads p (starts x.now [.act a]) (x.after p rota a) :=
  leads_event (event?_act.2 ⟨hallows, rota, hact, rfl⟩)

lemma leads_pass (hle : x.now ≤ now) (hworker : x.isWorkerIdle p now = true)
    (hposting : x.rota.posting 0 = false) (hdue : now ≤ x.due 0) :
    x.Leads p [] { x with now } := by
  rcases Nat.eq_or_lt_of_le hle with rfl | hlt
  · exact .refl x
  · obtain ⟨d, rfl⟩ := Nat.exists_eq_add_of_lt hlt
    refine leads_event (e := .pass (d + 1)) (event?_pass.2 ⟨⟨Nat.succ_pos d, hworker, ?_⟩, rfl⟩)
    refine areTimersIdle_iff.2 fun i hi => ?_
    obtain rfl := Nat.lt_one_iff.1 hi
    exact ⟨hposting, hdue⟩

/-- The timer has nothing in its hands. -/
structure Stands (x : State) (m : Bool) (due : ℕ) : Prop where
  due : x.due 0 = due
  posting : x.rota.posting 0 = false
  marked : x.rota.marked 0 = m
  queue : x.rota.queue = if m then [0] else []

lemma leads_tick (hx : x.Stands m due) (hdue : due ≤ x.now) : ∃ y, x.Leads p [] y ∧
    y.Stands true (due + p.interval 0) ∧ y.now = x.now ∧ y.ends = x.ends ∧
    y.rota.worker = x.rota.worker := by
  obtain ⟨rfl, hposting, hm, hqueue⟩ := hx
  cases m with
  | true =>
    have hdrop : x.rota.act? 1 (.drop 0) = some x.rota := if_pos ⟨⟨Nat.one_pos, hposting⟩, hm⟩
    have h := leads_act (p := p) (a := .drop 0) (decide_eq_true hdue) hdrop
    exact ⟨_, h, ⟨by simp [after], hposting, hm, hqueue⟩, rfl, rfl, rfl⟩
  | false =>
    obtain ⟨rota, hrota⟩ : ∃ rota, rota = { x.rota with
      marked := put x.rota.marked 0 true, posting := put x.rota.posting 0 true } := ⟨_, rfl⟩
    have hraise : x.rota.act? 1 (.raise 0) = some rota := by
      rw [act?, if_pos ⟨⟨Nat.one_pos, hposting⟩, hm⟩, hrota]
    have hpost : rota.act? 1 (.post 0) = some { rota with
        posting := put rota.posting 0 false, queue := rota.queue ++ [0] } := by
      rw [act?, if_pos (by simp [hrota, hqueue])]
    have h₁ := leads_act (p := p) (a := .raise 0) (decide_eq_true hdue) hraise
    have h₂ := leads_act (p := p) (x := x.after p rota (.raise 0)) (a := .post 0) rfl hpost
    refine ⟨_, h₁.trans h₂, ⟨by simp [after], by simp [after], ?_, ?_⟩, rfl, rfl, ?_⟩
    all_goals simp [after, hrota, hqueue]

lemma leads_ticks (hI : 0 < p.interval 0) (hx : x.Stands m due) (hle : x.now ≤ due)
    (hw : x.rota.worker = .running 0) (hends : x.now ≤ x.ends) : ∃ y, x.Leads p [] y ∧
    y.Stands (m || decide (due ≤ x.ends)) (tickAfter (p.interval 0) due x.ends) ∧
    y.now = x.ends ∧ y.ends = x.ends ∧ y.rota.worker = .running 0 := by
  -- on how much of the run is left after the next tick
  induction hn : x.ends + 1 - due using Nat.strongRecOn generalizing x m due with
  | ind n ih =>
    rcases Nat.lt_or_ge x.ends due with hlt | hge
    · have hpass := leads_pass (p := p) hends (by simp [isWorkerIdle, hw]) hx.posting
        (Nat.le_of_lt (hx.due ▸ hlt))
      refine ⟨_, hpass, ?_, rfl, rfl, hw⟩
      rw [tickAfter, Timer.nextDue_of_lt hlt, decide_eq_false (Nat.not_le.2 hlt), Bool.or_false]
      exact ⟨hx.due, hx.posting, hx.marked, hx.queue⟩
    · have hpass := leads_pass (p := p) hle (by simp [isWorkerIdle, hw, hge]) hx.posting
        (Nat.le_of_eq hx.due.symm)
      obtain ⟨y, htick, hy, hnow, hends', hw'⟩ := leads_tick (p := p) (x := { x with now := due })
        ⟨hx.due, hx.posting, hx.marked, hx.queue⟩ (Nat.le_refl due)
      dsimp only at hnow hends' hw'
      rw [hw] at hw'
      obtain ⟨z, hticks, hz⟩ := ih (y.ends + 1 - (due + p.interval 0)) (by omega) hy (by omega) hw'
        (by omega) rfl
      refine ⟨z, (hpass.trans htick).trans hticks, ?_⟩
      rw [hends'] at hz
      rw [tickAfter, Timer.nextDue_of_le hI hge, decide_eq_true hge, Bool.or_true]
      exact hz

lemma leads_start (hx : x.Stands true due) (hw : x.rota.worker = .waiting)
    (hstop : x.now ≤ p.stop) : ∃ y, x.Leads p [x.now] y ∧ y.Stands false due ∧ y.now = x.now ∧
    y.ends = x.now + p.length 0 ∧ y.rota.worker = .running 0 := by
  obtain ⟨hdue, hposting, hm, hqueue⟩ := hx
  obtain ⟨rota, hrota⟩ : ∃ rota : Interleaving.State,
    rota = { x.rota with queue := [], worker := .received 0 } := ⟨_, rfl⟩
  have hreceive : x.rota.act? 1 (.receive 0) = some rota := by
    rw [act?, if_pos (by simp [hw, hqueue]), hqueue, hrota]
    rfl
  have hstart : rota.act? 1 (.start 0) =
      some { rota with marked := put rota.marked 0 false, worker := .running 0 } :=
    if_pos (by rw [hrota])
  have h₁ := leads_act (p := p) (a := .receive 0) (decide_eq_true hstop) hreceive
  have h₂ := leads_act (p := p) (x := x.after p rota (.receive 0)) (a := .start 0) rfl hstart
  refine ⟨_, h₁.trans h₂, ⟨hdue, ?_, rfl, ?_⟩, rfl, rfl, rfl⟩
  all_goals simp [after, hrota, hposting]

lemma leads_run (hI : 0 < p.interval 0) (hx : x.Stands true due) (hle : x.now ≤ due)
    (hw : x.rota.worker = .waiting) (hstop : x.now ≤ p.stop) : ∃ y, x.Leads p [x.now] y ∧
    y.Stands (decide (due ≤ x.now + p.length 0))
      (tickAfter (p.interval 0) due (x.now + p.length 0)) ∧
    y.now = x.now + p.length 0 ∧ y.rota.worker = .waiting := by
  obtain ⟨y, h₁, hy, hnow, hends, hw⟩ := leads_start (p := p) hx hw hstop
  obtain ⟨z, h₂, hz, hnow', hends', hw⟩ := leads_ticks hI hy (by omega) hw (by omega)
  rw [hends] at hz hnow' hends'
  rw [Bool.false_or] at hz
  have hfinish : z.rota.act? 1 (.finish 0) = some { z.rota with worker := .waiting } := if_pos hw
  have h₃ := leads_act (p := p) (a := .finish 0) (decide_eq_true (by omega)) hfinish
  exact ⟨_, (h₁.trans h₂).trans h₃, ⟨hz.due, hz.posting, hz.marked, hz.queue⟩, hnow', rfl⟩

lemma leads_stop (hw : x.rota.worker = .waiting) (hstop : p.stop ≤ x.now) :
    ∃ y, x.Leads p [] y ∧ y.rota.worker = .stopped := by
  have h : x.rota.act? 1 .stop = some { x.rota with worker := .stopped } := if_pos hw
  exact ⟨_, leads_act (p := p) (a := .stop) (decide_eq_true hstop) h, rfl⟩

/-! ### The rota as a course -/

/-- The state of a rota whose task does not wait, once its ticks up to now are taken in. -/
structure Shows (x : State) (c : Clock σ) (interval due : ℕ) (u : σ) : Prop where
  now : x.now = c.now u
  stands : x.Stands (decide (due ≤ c.now u)) (tickAfter interval due (c.now u))
  worker : x.rota.worker = .waiting

namespace Shows

lemma stands_of_lt (hx : x.Shows c interval due u) (hlt : c.now u < due) : x.Stands false due := by
  have h := hx.stands
  rwa [decide_eq_false (Nat.not_le.2 hlt), tickAfter, Timer.nextDue_of_lt hlt] at h

lemma leads_stopped (hx : x.Shows c interval due u) (hstop : p.stop ≤ max (c.now u) due) :
    ∃ y, x.Leads p [] y ∧ y.rota.worker = .stopped := by
  rcases Nat.lt_or_ge x.now p.stop with hlt | hge
  · have hnow := hx.now
    have hidle := hx.stands_of_lt (by omega)
    have hpass := leads_pass (p := p) (Nat.le_of_lt hlt)
      (by simp [isWorkerIdle, hx.worker, hidle.queue]) hidle.posting (by rw [hidle.due]; omega)
    obtain ⟨y, h, hy⟩ := leads_stop (p := p) (x := { x with now := p.stop }) hx.worker
      (Nat.le_refl _)
    exact ⟨y, hpass.trans h, hy⟩
  · exact leads_stop hx.worker hge

lemma leads_due (hI : 0 < p.interval 0) (hx : x.Shows c (p.interval 0) due u)
    (hnow : now = max (c.now u) due) (hstop : now < p.stop) : ∃ y, x.Leads p [] y ∧
    y.Stands true (tickAfter (p.interval 0) due now) ∧ y.now = now ∧
    y.rota.worker = .waiting := by
  rcases Nat.lt_or_ge (c.now u) due with hlt | hge
  · obtain rfl : now = due := hnow.trans (Nat.max_eq_right (Nat.le_of_lt hlt))
    have hidle := hx.stands_of_lt hlt
    have hpass : x.Leads p [] { x with now } := leads_pass (hx.now ▸ Nat.le_of_lt hlt)
      (by simp [isWorkerIdle, hx.worker, hidle.queue, Nat.le_of_lt hstop]) hidle.posting
      (Nat.le_of_eq hidle.due.symm)
    obtain ⟨y, htick, hy, hnow', -, hw⟩ := leads_tick (p := p) (x := { x with now })
      ⟨hidle.due, hidle.posting, hidle.marked, hidle.queue⟩ (Nat.le_refl now)
    refine ⟨y, hpass.trans htick, ?_, hnow', hw.trans hx.worker⟩
    rwa [tickAfter, Timer.nextDue_self hI]
  · obtain rfl : now = c.now u := hnow.trans (Nat.max_eq_left hge)
    have h := hx.stands
    rw [decide_eq_true hge] at h
    exact ⟨x, .refl x, h, hx.now, hx.worker⟩

lemma leads_next (hc : c.IsExact w t length stop) (hI : 0 < interval)
    (hx : x.Shows c interval due u) (hv : c.now v = max (c.now u) due) (hstop : c.now v < stop) :
    ∃ y, x.Leads (.uniform interval length stop) [c.now v] y ∧
      y.Shows c interval (tickAfter interval due (c.now v)) (t.runAndTell w v).2 := by
  obtain ⟨y, h₁, hy, hnow, hw⟩ := leads_due (p := .uniform interval length stop) hI hx hv hstop
  have hle : y.now ≤ tickAfter interval due (c.now v) :=
    hnow ▸ Nat.le_of_lt (Timer.due_lt_nextDue (t := ⟨interval, due, false⟩) hI)
  obtain ⟨z, h₂, hz, hnow', hw'⟩ := leads_run (p := .uniform interval length stop) hI hy hle hw
    (hnow ▸ Nat.le_of_lt hstop)
  rw [hnow] at h₂ hz hnow'
  refine ⟨z, h₁.trans h₂, hnow'.trans (hc.run v).symm, ?_, hw'⟩
  rw [hc.run v]
  exact hz

lemma leads_step (hc : c.IsExact w t length stop) (hI : 0 < interval)
    (hx : x.Shows c interval due u) :
    ((∃ v, (Rota.alone interval due u).step w c [t] = .ended v) ∧
      ∃ y, x.Leads (.uniform interval length stop) [] y ∧ y.rota.worker = .stopped) ∨
    ∃ v due' y, (Rota.alone interval due u).step w c [t] =
        .ongoing (.alone interval due' (t.runAndTell w v).2) ∧ c.now v < stop ∧
      x.Leads (.uniform interval length stop) [c.now v] y ∧
      y.Shows c interval due' (t.runAndTell w v).2 := by
  have hstep := step_alone hc interval due u
  split at hstep
  · rename_i hstop
    exact .inl ⟨hstep, hx.leads_stopped hstop⟩
  · rename_i hstop
    obtain ⟨v, hnow, hv⟩ := hstep
    have hlt : c.now v < stop := hnow ▸ Nat.not_le.1 hstop
    obtain ⟨y, hy⟩ := hx.leads_next hc hI hnow hlt
    rw [← hnow] at hv
    exact .inr ⟨v, _, y, hv, hlt, hy⟩

lemma leads_steps (hc : c.IsExact w t length stop) (hI : 0 < interval) (k : ℕ)
    (hx : x.Shows c interval due u) : ∃ ts y, x.Leads (.uniform interval length stop) ts y ∧
    (((∃ v, (Rota.alone interval due u).steps w c [t] (fun _ => false) (k + 1) = .ended v) ∧
      ts.length ≤ k ∧ y.rota.worker = .stopped) ∨
    ∃ v r, (Rota.alone interval due u).steps w c [t] (fun _ => false) (k + 1) = .ongoing r ∧
      r.world = (t.runAndTell w v).2 ∧ c.now v < stop ∧ ts[k]? = some (c.now v)) := by
  induction k generalizing x due u with
  | zero =>
    rw [Rota.steps, if_neg Bool.false_ne_true]
    rcases hx.leads_step hc hI with ⟨⟨v, hv⟩, y, hy, hw⟩ | ⟨v, due', y, hv, hlt, hy, -⟩
    · exact ⟨[], y, hy, .inl ⟨⟨v, by rw [hv]⟩, Nat.le_refl 0, hw⟩⟩
    · exact ⟨_, y, hy, .inr ⟨v, _, by rw [hv]; rfl, rfl, hlt, rfl⟩⟩
  | succ k ih =>
    rw [Rota.steps, if_neg Bool.false_ne_true]
    rcases hx.leads_step hc hI with ⟨⟨v, hv⟩, y, hy, hw⟩ | ⟨v, due', y, hv, -, hy, hshows⟩
    · exact ⟨[], y, hy, .inl ⟨⟨v, by rw [hv]⟩, Nat.zero_le _, hw⟩⟩
    · obtain ⟨ts, z, hz, hsteps⟩ := ih hshows
      refine ⟨c.now v :: ts, z, hy.trans hz, ?_⟩
      rw [hv]
      exact hsteps.imp (fun ⟨hended, hlen, hw⟩ => ⟨hended, Nat.succ_le_succ hlen, hw⟩) id

end Shows

lemma exists_shows (hI : 0 < interval) (length stop : ℕ) (c : Clock σ) (world : σ) :
    ∃ x, (initial (c.now world)).Leads (.uniform interval length stop) [] x ∧
      x.Shows c interval (c.now world) world := by
  obtain ⟨x, h, hx, hnow, -, hw⟩ := leads_tick (p := .uniform interval length stop) (m := false)
    (x := initial (c.now world)) ⟨rfl, rfl, rfl, rfl⟩ (Nat.le_refl _)
  refine ⟨x, h, hnow, ?_, hw⟩
  rw [decide_eq_true (Nat.le_refl _), tickAfter, Timer.nextDue_self hI]
  exact hx

/-- Each step of the rota is the next run at its time, until the stop. -/
lemma steps_rota {s : Schedule} {world : σ} (hs : s.recurring = [t]) (hI : 0 < t.interval)
    (hc : c.IsExact w t length stop) (k : ℕ) :
    if c.now world + k * max t.interval length < stop then
      ∃ v r, c.now v = c.now world + k * max t.interval length ∧
        r.world = (t.runAndTell w v).2 ∧
        (s.rota c world).steps w c s.recurring (fun _ => false) (k + 1) = .ongoing r
    else ∃ v, (s.rota c world).steps w c s.recurring (fun _ => false) (k + 1) = .ended v := by
  have hrota : s.rota c world = .alone t.interval (c.now world) world := by
    rw [Schedule.rota, hs]
    rfl
  obtain ⟨x, hinitial, hx⟩ := exists_shows hI length stop c world
  obtain ⟨ts, y, hleads, hsteps⟩ := hx.leads_steps hc hI k
  obtain ⟨es, hes, hts⟩ := hinitial.trans hleads
  obtain ⟨hy, htimes⟩ := isOnTime_run (p := .uniform t.interval length stop) hI hes
  rw [show starts (c.now world) es = ts from hts] at hy htimes
  rw [hrota, hs]
  rcases hsteps with ⟨hended, hlen, hw⟩ | ⟨v, r, hr, hworld, hlt, hk⟩
  · -- the worker has stopped, so the run after those of the course would start at the stop or later
    have hfits := hy.fits
    rw [hw] at hfits
    have hle : stop ≤ c.now world + ts.length * max t.interval length := hfits
    have hmul := Nat.mul_le_mul_right (max t.interval length) hlen
    rw [if_neg (by omega)]
    exact hended
  · have hv : c.now v = c.now world + k * max t.interval length := (htimes k _ hk).1
    rw [if_pos (hv ▸ hlt)]
    exact ⟨v, r, hv, hworld, hr⟩

end State

open State

/-- **A task that recurs alone keeps its pace.** From the start of the recurring phase on, its runs
are as far apart as the interval or as a run is long, whichever is more. Each of them starts at its
exact time if that is before the stop, and none starts after the stop. So it is in every course in
time, whatever comes first at an instant; a course can always go on, and time passes in it. And so
it is with the rota: each of its steps is the next run, at its time, until it sees the stop. -/
theorem runs_keep_pace {interval length stop start : ℕ} (hI : 0 < interval) :
    (∀ es x, (initial start).run? (.uniform interval length stop) 1 es = some x →
      (∀ k time, (starts start es)[k]? = some time →
        time = start + k * max interval length ∧ time ≤ stop) ∧
      (∀ k, start + k * max interval length < stop → start + k * max interval length < x.now →
        (starts start es)[k]? = some (start + k * max interval length)) ∧
      (∃ e y, x.event? (.uniform interval length stop) 1 e = some y) ∧
      es.length + 6 * start ≤ 6 * x.now + 5 * interval + 1) ∧
    ∀ (σ : Type) (w : World σ) (c : Clock σ) (s : Schedule) (t : Task) (world : σ),
      s.recurring = [t] → t.interval = interval → c.IsExact w t length stop → c.now world = start →
      ∀ k, if start + k * max interval length < stop then
          ∃ u r, c.now u = start + k * max interval length ∧ r.world = (t.runAndTell w u).2 ∧
            (s.rota c world).steps w c s.recurring (fun _ => false) (k + 1) = .ongoing r
        else ∃ u, (s.rota c world).steps w c s.recurring (fun _ => false) (k + 1) = .ended u := by
  refine ⟨fun es x hes => ?_, ?_⟩
  · have hx := isOnTime_run (p := .uniform interval length stop) hI hes
    exact ⟨hx.2, fun k hstop hnow => getElem?_starts hI hes hstop hnow, exists_event hx.1.balanced,
      length_le hI hes⟩
  · rintro σ w c s t world hs rfl hc rfl k
    exact steps_rota hs hI hc k

lemma isExact_clock {w : World Script.State} {t : Task} {length stop : ℕ}
    (hprint : ∀ l u, (w.print l u).time = u.time)
    (hrun : ∀ u, (t.runAndTell (w.stamped (·.time)) u).2.1.time = u.1.time + length) :
    (Horizon.stopAt stop).clock.IsExact (w.stamped (·.time)) t length stop where
  print l u := hprint l u.1
  run := hrun
  asked due u := by
    have hasked : (Horizon.stopAt stop).stopsBy (max u.1.time due) =
      decide (stop ≤ max ((Horizon.stopAt stop).clock.now u) due) := rfl
    rw [← hasked]
    dsimp only [Horizon.clock]
    cases (Horizon.stopAt stop).stopsBy (max u.1.time due) <;> rfl
  waited due u hlt := by
    have hasked : (Horizon.stopAt stop).stopsBy (max u.1.time due) = false :=
      decide_eq_false (Nat.not_le.2 hlt)
    dsimp only [Horizon.clock]
    rw [hasked]
    rfl

/-- A daemon that takes five seconds to fail. -/
def slowWorld : World Script.State :=
  ⟨fun _ s => (.error (.network ""), { s with time := s.time + 5000 }), fun _ s => s⟩

def slowTask : Task := ⟨"slow", ⟨"", ""⟩, ⟨"", ""⟩, [⟨"/a", "/a", []⟩], 2000, false⟩

/-- A task that takes longer than its interval, with a stop in its second run: a course in time, and
the rota, which does not run the task a third time. -/
theorem runs_keep_pace_slow :
    0 < 2000 ∧ (∃ es x, (initial 0).run? (.uniform 2000 5000 9500) 1 es = some x ∧
      (starts 0 es)[1]? = some (0 + 1 * max 2000 5000) ∧ (starts 0 es).length = 2) ∧
    (Horizon.stopAt 9500).clock.IsExact (slowWorld.stamped (·.time)) slowTask 5000 9500 ∧
    (∃ u r, (Horizon.stopAt 9500).clock.now u = 0 + 1 * max 2000 5000 ∧
      r.world = (slowTask.runAndTell (slowWorld.stamped (·.time)) u).2 ∧
      (rota (Horizon.stopAt 9500).clock ⟨[slowTask], .patient⟩ (Script.start, [])).steps
        (slowWorld.stamped (·.time)) (Horizon.stopAt 9500).clock [slowTask] (fun _ => false) 2 =
          .ongoing r) ∧
    ∃ u, (rota (Horizon.stopAt 9500).clock ⟨[slowTask], .patient⟩ (Script.start, [])).steps
      (slowWorld.stamped (·.time)) (Horizon.stopAt 9500).clock [slowTask] (fun _ => false) 3 =
        .ended u := by
  have hexact : (Horizon.stopAt 9500).clock.IsExact (slowWorld.stamped (·.time)) slowTask 5000
    9500 := isExact_clock (fun _ _ => rfl) fun _ => rfl
  obtain ⟨hcourses, hrota⟩ := @runs_keep_pace 2000 5000 9500 0 (by decide)
  obtain ⟨es, hes⟩ : ∃ es : List Event, es = [.act (.raise 0), .act (.post 0), .act (.receive 0),
    .act (.start 0), .pass 2000, .act (.raise 0), .act (.post 0), .pass 2000, .act (.drop 0),
    .pass 1000, .act (.finish 0), .act (.receive 0), .act (.start 0), .pass 1000, .act (.raise 0),
    .act (.post 0), .pass 2000, .act (.drop 0), .pass 2000, .act (.finish 0), .act .stop] :=
      ⟨_, rfl⟩
  obtain ⟨x, hx⟩ : ∃ x, (initial 0).run? (.uniform 2000 5000 9500) 1 es = some x :=
    ⟨_, by rw [hes]; rfl⟩
  have hnow : x.now = 10000 := by
    rw [hes] at hx
    obtain rfl := Option.some.inj hx
    rfl
  refine ⟨by decide, ⟨es, x, hx, ?_, by rw [hes]; rfl⟩, hexact, ?_, ?_⟩
  · exact (hcourses es x hx).2.1 1 (by decide) (by rw [hnow]; decide)
  · exact hrota _ _ _ _ _ (Script.start, []) rfl rfl hexact rfl 1
  · exact hrota _ _ _ _ _ (Script.start, []) rfl rfl hexact rfl 2

end Timed

end Schedule

end RegistrySync
