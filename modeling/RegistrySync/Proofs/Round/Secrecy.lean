import Mathlib.Data.List.Forall2
import RegistrySync.Proofs.Round.Course
import RegistrySync.Proofs.World.Coupling

/-!
What the credentials of a task have an influence on.

Two runs of a task that differ in the configured credentials and in what logins say go the same way:
they ask the same in the same order and say the same, and only the credentials in pulls and pushes
differ. A pull has the credential for the source of its own round, a push that for the target.
-/

namespace RegistrySync

open World Exchange

variable {σ τ : Type} {v : World σ} {w : World τ}

/-! ### One mapping -/

def Location.withAuth (l : Location) (auth : String) : Location := { l with auth }

def Task.withAuths (t : Task) (sourceAuth targetAuth : String) : Task :=
  { t with source := t.source.withAuth sourceAuth, target := t.target.withAuth targetAuth }

def Transfer.withAuths (t : Transfer) (sourceAuth targetAuth : String) : Transfer :=
  { t with sourceAuth, targetAuth }

namespace Location

variable (l : Location) (auth : String)

lemma kind_withAuth : (l.withAuth auth).kind = l.kind := rfl

lemma couples_issueLogin (region : String) :
    Couples (v.watched.ask (.issueLogin region) : Attempt (Seen σ) Login).run
      (w.watched.ask (.issueLogin region) : Attempt (Seen τ) Login).run (results FailAlike) :=
  Couples.ask_failAlike _

lemma couples_refresh : Couples (l.refresh v.watched).run ((l.withAuth auth).refresh w.watched).run
    (results FailAlike) := by
  rw [refresh, refresh, kind_withAuth]
  rcases l.kind with _ | identity
  · exact Couples.pure rfl
  · exact Couples.attempt_map (couples_issueLogin identity.region) _ _

lemma couples_credential : Couples (l.credential v.watched)
    ((l.withAuth auth).credential w.watched) (results fun _ _ => True) := by
  refine Couples.next FailAlike.refl (couples_refresh l auth) ?_
  rintro (e | credential) (e' | credential') hr
  · obtain rfl := Except.error.inj hr
    exact Couples.line (Couples.pure trivial)
  · cases hr
  · cases hr
  · exact Couples.pure trivial

lemma couples_ensure (reference : String) : Couples (l.ensure v.watched reference).run
    ((l.withAuth auth).ensure w.watched reference).run (results Eq) := by
  rw [ensure, ensure, kind_withAuth]
  rcases l.kind with _ | identity
  · exact Couples.pure rfl
  · by_cases hpath : (Reference.split reference).2 = ""
    · simp only [hpath]
      exact Couples.pure rfl
    · simp only [hpath, String.isEmpty_iff]
      exact Couples.verdict (Couples.ask_failAlike _)

end Location

namespace Transfer

variable (t : Transfer) (sourceAuth targetAuth : String)

lemma couples_list (reference : String) : Couples (t.list v.watched reference)
    ((t.withAuths sourceAuth targetAuth).list w.watched reference) (results Eq) := by
  refine Couples.next_eq (Couples.ask_list reference) fun r => ?_
  rcases r with e | images
  · exact Couples.line (Couples.pure rfl)
  · exact Couples.pure rfl

lemma couples_listAll (references : List String) : Couples (t.listAll v.watched references)
    ((t.withAuths sourceAuth targetAuth).listAll w.watched references) (results Eq) := by
  induction references with
  | nil => exact Couples.pure rfl
  | cons reference references ih =>
    exact Couples.next_eq (t.couples_list sourceAuth targetAuth reference) fun _ =>
      Couples.next_eq ih fun _ => Couples.pure rfl

lemma couples_pull (reference : String) : Couples (t.pull v.watched reference).run
    ((t.withAuths sourceAuth targetAuth).pull w.watched reference).run (results Eq) :=
  Couples.verdict (Couples.askFor (c := t.pullCall reference)
    (d := (t.withAuths sourceAuth targetAuth).pullCall reference) rfl _)

lemma couples_rename (name : String × String) :
    Couples (rename v.watched name).run (rename w.watched name).run (results Eq) :=
  Couples.verdict (Couples.askFor rfl _)

lemma couples_push : Couples (t.push v.watched).run
    ((t.withAuths sourceAuth targetAuth).push w.watched).run (results Eq) :=
  Couples.verdict (Couples.askFor (c := t.pushCall)
    (d := (t.withAuths sourceAuth targetAuth).pushCall) rfl _)

lemma couples_run : Couples (t.run v.watched).run
    ((t.withAuths sourceAuth targetAuth).run w.watched).run (results Eq) := by
  have hline (message : String) :
      Couples (liftM (v.watched.info message) : Attempt (Seen σ) Unit).run
        (liftM (w.watched.info message) : Attempt (Seen τ) Unit).run (results Eq) :=
    Couples.lift (Couples.say _ _)
  refine Couples.attempt_bind (hline _) fun _ => ?_
  refine Couples.attempt_bind (Couples.forM (t.couples_pull sourceAuth targetAuth) _) fun _ => ?_
  refine Couples.attempt_bind (hline _) fun _ => ?_
  refine Couples.attempt_bind (Couples.lift (t.couples_listAll sourceAuth targetAuth _)) ?_
  intro images
  refine Couples.attempt_bind (Couples.forM (fun _ => hline _) images) fun _ => ?_
  refine Couples.attempt_bind (hline _) fun _ => ?_
  refine Couples.attempt_bind (Couples.forM couples_rename _) fun _ => ?_
  exact Couples.attempt_bind (hline _) fun _ => t.couples_push sourceAuth targetAuth

end Transfer

namespace Task

variable (t : Task) (sourceAuth targetAuth : String)

lemma couples_report {α : Type} (outcome : Except Error α) :
    Couples (v.watched.report outcome) (w.watched.report outcome) (results Eq) := by
  rcases outcome with e | a
  · exact Couples.line (Couples.pure rfl)
  · exact Couples.pure rfl

lemma couples_runMapping (m : Mapping) : Couples (t.runMapping v.watched m)
    ((t.withAuths sourceAuth targetAuth).runMapping w.watched m) (results Eq) := by
  refine Couples.line ?_
  -- nothing is known of the credentials, so what follows is compared for any two
  refine Couples.next (fun _ => trivial) (t.source.couples_credential sourceAuth) fun a a' _ => ?_
  refine Couples.next (fun _ => trivial) (t.target.couples_credential targetAuth) fun b b' _ => ?_
  refine Couples.next_eq (t.target.couples_ensure targetAuth (t.refs m).2) fun ensured => ?_
  refine Couples.next_eq (couples_report ensured) fun _ => ?_
  exact Couples.next_eq ((t.transfer m a b).couples_run a' b') fun outcome =>
    couples_report outcome

/-! ### Round by round -/

/-- The rounds of a mapping in two runs: the same calls except for credentials. -/
structure AreRounds (t t' : Task) (m : Mapping) (p : Round × Round) : Prop where
  left : t.IsRound m p.1
  right : t'.IsRound m p.2
  calls : p.1.exchanges.map (·.call.withoutAuth) = p.2.exchanges.map (·.call.withoutAuth)

/-- What two runs of mappings come to, round by round. -/
structure AreRuns (t t' : Task) (ms : List Mapping) (rounds : List (Round × Round))
    (xs ys : List Exchange) : Prop where
  aligned : List.Forall₂ (AreRounds t t') ms rounds
  left : xs = rounds.flatMap (·.1.exchanges)
  right : ys = rounds.flatMap (·.2.exchanges)

lemma couples_round (m : Mapping) : Couples (t.runMapping v.watched m)
    ((t.withAuths sourceAuth targetAuth).runMapping w.watched m) fun xs failed ys failed' =>
      failed = failed' ∧ ∃ p, AreRounds t (t.withAuths sourceAuth targetAuth) m p ∧
        xs = p.1.exchanges ∧ ys = p.2.exchanges := by
  refine ((t.couples_runMapping sourceAuth targetAuth m).and_calls.and_adds adds_runMapping
    adds_runMapping).mono ?_
  rintro xs failed ys failed' ⟨⟨hfailed, hcalls⟩, ⟨r, hr, rfl, -⟩, ⟨r', hr', rfl, -⟩⟩
  exact ⟨hfailed, (r, r'), ⟨hr, hr', hcalls⟩, rfl, rfl⟩

lemma couples_runMappings (ms : List Mapping) : Couples (t.runMappings v.watched ms)
    ((t.withAuths sourceAuth targetAuth).runMappings w.watched ms) fun xs failed ys failed' =>
      failed = failed' ∧ ∃ rounds, AreRuns t (t.withAuths sourceAuth targetAuth) ms rounds xs ys := by
  induction ms with
  | nil => exact Couples.pure ⟨rfl, [], .nil, rfl, rfl⟩
  | cons m ms ih =>
    refine (Couples.bind (fun _ => rfl) (t.couples_round sourceAuth targetAuth m)
      (fun _ _ _ _ h => h.1) fun failed failed' _ =>
        ih.map (fun more => (if failed then 1 else 0) + more)
          fun more => (if failed' then 1 else 0) + more).mono ?_
    rintro _ _ _ _ ⟨_, failed, _, _, _, _, ⟨rfl, p, hp, rfl, rfl⟩,
      ⟨more, _, ⟨rfl, rounds, hrounds, rfl, rfl⟩, rfl, rfl⟩, rfl, rfl⟩
    exact ⟨rfl, p :: rounds, .cons hp hrounds, rfl, rfl⟩

lemma couples_run : Couples (t.run v.watched)
    ((t.withAuths sourceAuth targetAuth).run w.watched) fun xs failed ys failed' =>
      failed = failed' ∧
        ∃ rounds, AreRuns t (t.withAuths sourceAuth targetAuth) t.mappings rounds xs ys :=
  Couples.line (Couples.line_after (t.couples_runMappings sourceAuth targetAuth t.mappings))

end Task

/-! ### Slots for credentials -/

def Call.pullAuth? : Call → Option String
  | .pull _ auth _ _ => some auth
  | _ => none

def Call.pushAuth? : Call → Option String
  | .push _ _ auth _ => some auth
  | _ => none

/-- Whether a call has the slot is known without the credential. -/
def IsSlot (slot : Call → Option String) : Prop :=
  ∀ c, (slot c.withoutAuth).isSome = (slot c).isSome

lemma isSlot_pullAuth : IsSlot Call.pullAuth? := fun c => by cases c <;> rfl

lemma isSlot_pushAuth : IsSlot Call.pushAuth? := fun c => by cases c <;> rfl

/-- Where a call has the slot, it is filled with this credential. -/
def IsFilledWith (slot : Call → Option String) (auth : String) (xs : List Exchange) : Prop :=
  ∀ x ∈ xs, slot x.call = none ∨ slot x.call = some auth

lemma IsSlot.filterMap_eq {slot : Call → Option String} (hslot : IsSlot slot) {auth : String}
    {xs ys : List Exchange}
    (hcalls : xs.map (·.call.withoutAuth) = ys.map (·.call.withoutAuth))
    (hx : IsFilledWith slot auth xs) (hy : IsFilledWith slot auth ys) :
    xs.filterMap (slot ·.call) = ys.filterMap (slot ·.call) := by
  induction xs generalizing ys with
  | nil =>
    obtain rfl : ys = [] := List.map_eq_nil_iff.1 hcalls.symm
    rfl
  | cons x xs ih =>
    rcases ys with _ | ⟨y, ys⟩
    · cases hcalls
    · obtain ⟨hcall, hrest⟩ := List.cons.inj hcalls
      have htail := ih hrest (fun z hz => hx z (List.mem_cons_of_mem x hz))
        fun z hz => hy z (List.mem_cons_of_mem y hz)
      -- the calls differ in credentials alone, so both have the slot or neither has
      have hsome : (slot x.call).isSome = (slot y.call).isSome := by
        rw [← hslot x.call, ← hslot y.call]
        exact congrArg (fun c => (slot c).isSome) hcall
      have hhead : slot x.call = slot y.call := by
        rcases hx x List.mem_cons_self with hxa | hxa <;>
          rcases hy y List.mem_cons_self with hya | hya
        · rw [hxa, hya]
        · rw [hxa, hya] at hsome
          cases hsome
        · rw [hxa, hya] at hsome
          cases hsome
        · rw [hxa, hya]
      rw [List.filterMap_cons, List.filterMap_cons, hhead, htail]

namespace Task

variable {t t' : Task} {m : Mapping} {ms : List Mapping} {rounds : List (Round × Round)}
  {xs ys : List Exchange}

lemma IsRound.isFilledWith {r : Round} (h : t.IsRound m r) :
    IsFilledWith Call.pullAuth? (t.source.credentialAfter r.sourceLogins) r.exchanges ∧
      IsFilledWith Call.pushAuth? (t.target.credentialAfter r.targetLogins) r.exchanges := by
  refine forall₂_and.1 fun x hx => ?_
  simp only [Round.exchanges, List.mem_append] at hx
  rcases hx with ((hx | hx) | hx) | hx
  · obtain ⟨region, hcall⟩ :=
      t.source.call_of_mem_loginCalls (h.sourceLogins ▸ List.mem_map_of_mem hx)
    rw [hcall]
    exact ⟨.inl rfl, .inl rfl⟩
  · obtain ⟨region, hcall⟩ :=
      t.target.call_of_mem_loginCalls (h.targetLogins ▸ List.mem_map_of_mem hx)
    rw [hcall]
    exact ⟨.inl rfl, .inl rfl⟩
  · obtain ⟨identity, name, hcall⟩ :=
      t.target.call_of_mem_ensureCalls (h.ensured ▸ List.mem_map_of_mem hx)
    rw [hcall]
    exact ⟨.inl rfl, .inl rfl⟩
  · obtain ⟨pulls, lists, tags, pushes, htransferred, hcourse⟩ := h.transferred
    rw [htransferred] at hx
    rcases hcourse.call_cases hx with
      ⟨reference, hcall⟩ | ⟨reference, hcall⟩ | ⟨id, reference, hcall⟩ | hcall
    all_goals rw [hcall]
    · exact ⟨.inr rfl, .inl rfl⟩
    · exact ⟨.inl rfl, .inl rfl⟩
    · exact ⟨.inl rfl, .inl rfl⟩
    · exact ⟨.inl rfl, .inr rfl⟩

namespace AreRuns

lemma exists_mapping (h : AreRuns t t' ms rounds xs ys) {p : Round × Round} (hp : p ∈ rounds) :
    ∃ m, AreRounds t t' m p := by
  obtain ⟨haligned, -, -⟩ := h
  induction haligned with
  | nil => cases hp
  | cons hm _ ih =>
    rcases List.mem_cons.1 hp with rfl | hp
    · exact ⟨_, hm⟩
    · exact ih hp

lemma filterMap_eq (h : AreRuns t t' ms rounds xs ys) {slot : Call → Option String}
    (hslot : IsSlot slot) (hfilled : ∀ p ∈ rounds, ∀ m, AreRounds t t' m p →
      ∃ auth, IsFilledWith slot auth p.1.exchanges ∧ IsFilledWith slot auth p.2.exchanges) :
    xs.filterMap (slot ·.call) = ys.filterMap (slot ·.call) := by
  rw [h.left, h.right, List.filterMap_flatMap, List.filterMap_flatMap]
  refine List.flatMap_congr fun p hp => ?_
  obtain ⟨m, hm⟩ := h.exists_mapping hp
  obtain ⟨auth, hleft, hright⟩ := hfilled p hp m hm
  exact hslot.filterMap_eq hm.calls hleft hright

end AreRuns

/-! ### Whole runs -/

def transcript (t : Task) (w : World σ) (s : σ) : List Exchange :=
  (t.run w.watched ((s, []), [])).2.2

def record (t : Task) (w : World σ) (s : σ) : List Event :=
  (t.run w.watched ((s, []), [])).2.1.2.reverse

lemma run_watched (t : Task) (w : World σ) (s : σ) :
    (t.run w s).1 = (t.run w.watched ((s, []), [])).1 := by
  have hextends : Extends (fun s : Seen σ => s.1.1) w.watched w :=
    ⟨fun _ _ => rfl, fun _ _ => rfl⟩
  exact congrArg Prod.fst (run_tracks hextends ((s, []), []))

/-- **Credentials stay in their slots.** Let a task be run twice, with different credentials
configured and in worlds that answer alike, call by call, except for what logins say. Then both runs
make the same calls, except for the credentials in pulls and pushes, and say the same lines between
them, and as many mappings fail. Where the credential configured for the source is the same and in
each round the same logins are given for the source, each pull has the same credential; so it is for
the target and pushes. -/
theorem credentials_stay_in_slots (v : World σ) (w : World τ) (t : Task)
    (sourceAuth targetAuth : String) (s : σ) (u : τ)
    (hacc : InAccord (t.transcript v s) ((t.withAuths sourceAuth targetAuth).transcript w u)) :
    let t' := t.withAuths sourceAuth targetAuth
    (t.record v s).map Event.withoutAuth = (t'.record w u).map Event.withoutAuth ∧
    (t.run v s).1 = (t'.run w u).1 ∧
    ∃ rounds, AreRuns t t' t.mappings rounds (t.transcript v s) (t'.transcript w u) ∧
      (sourceAuth = t.source.auth → (∀ p ∈ rounds, p.1.sourceLogins = p.2.sourceLogins) →
        (t.transcript v s).filterMap (·.call.pullAuth?) =
          (t'.transcript w u).filterMap (·.call.pullAuth?)) ∧
      (targetAuth = t.target.auth → (∀ p ∈ rounds, p.1.targetLogins = p.2.targetLogins) →
        (t.transcript v s).filterMap (·.call.pushAuth?) =
          (t'.transcript w u).filterMap (·.call.pushAuth?)) := by
  intro t'
  obtain ⟨xs, ys, es, ds, hs, hu, hcouple⟩ :=
    t.couples_run (v := v) (w := w) sourceAuth targetAuth ((s, []), []) ((u, []), [])
  have hxs : t.transcript v s = xs := hs.exchanges
  have hys : t'.transcript w u = ys := hu.exchanges
  have hes : t.record v s = es.reverse :=
    congrArg List.reverse (hs.events.trans (List.append_nil es))
  have hds : t'.record w u = ds.reverse :=
    congrArg List.reverse (hu.events.trans (List.append_nil ds))
  obtain ⟨halike, hfailed, rounds, hrounds⟩ := hcouple (hxs ▸ hys ▸ hacc)
  rw [hxs, hys, hes, hds, run_watched t v s, run_watched t' w u]
  refine ⟨?_, hfailed, rounds, hrounds, fun hauth hlogins => ?_, fun hauth hlogins => ?_⟩
  · rw [List.map_reverse, List.map_reverse, halike.events]
  · refine hrounds.filterMap_eq isSlot_pullAuth fun p hp m hm => ?_
    have hsource : t'.source = t.source := by
      subst hauth
      rfl
    have hright := hm.right.isFilledWith.1
    rw [hsource, ← hlogins p hp] at hright
    exact ⟨_, hm.left.isFilledWith.1, hright⟩
  · refine hrounds.filterMap_eq isSlot_pushAuth fun p hp m hm => ?_
    have htarget : t'.target = t.target := by
      subst hauth
      rfl
    have hright := hm.right.isFilledWith.2
    rw [htarget, ← hlogins p hp] at hright
    exact ⟨_, hm.left.isFilledWith.2, hright⟩

/-- A managed target for which different logins are given, and a push that fails. -/
theorem credentials_stay_in_slots_managed :
    let answer (password : String) (c : Call) (n : Nat) : Except Error c.Answer × Nat :=
      (match c with
        | .issueLogin _ => .ok ⟨"AWS", password⟩
        | .list _ => .ok [⟨"sha256:1", "", "alpine", ["3.20"]⟩]
        | .push _ _ _ _ => if n < 8 then .error (.network "") else .ok ()
        | .ping _ _ => .ok ()
        | .pull _ _ _ _ => .ok ()
        | .tag _ _ => .ok ()
        | .ensureRepository _ _ => .ok (), n + 1)
    let v : World Nat := ⟨answer "one", fun _ n => n⟩
    let w : World Nat := ⟨answer "two", fun _ n => n⟩
    let t : Task := ⟨"", ⟨"localhost:5000", "a"⟩, ⟨"1.dkr.ecr.eu-west-1.amazonaws.com", "b"⟩,
      [.ofPaths "alpine" "" [], .ofPaths "busybox" "" []], 0, false⟩
    let t' := t.withAuths "a" "c"
    InAccord (t.transcript v 0) (t'.transcript w 0) ∧
    (t.transcript v 0).filterMap (·.call.pushAuth?) ≠
      (t'.transcript w 0).filterMap (·.call.pushAuth?) ∧
    (t.transcript v 0).filterMap (·.call.pullAuth?) =
      (t'.transcript w 0).filterMap (·.call.pullAuth?) ∧
    (t.record v 0).map Event.withoutAuth = (t'.record w 0).map Event.withoutAuth ∧
    (t.run v 0).1 = 1 ∧ (t'.run w 0).1 = 1 := by
  intro answer v w t t'
  have hacc : InAccord (t.transcript v 0) (t'.transcript w 0) := by decide +kernel
  have hpushes : (t.transcript v 0).filterMap (·.call.pushAuth?) ≠
      (t'.transcript w 0).filterMap (·.call.pushAuth?) := by decide +kernel
  have hfailed : (t.run v 0).1 = 1 := by decide +kernel
  have hplain : t.source.loginCalls = [] := by decide +kernel
  obtain ⟨hrecord, hrun, rounds, hrounds, hpulls, -⟩ :=
    credentials_stay_in_slots v w t "a" "c" 0 0 hacc
  have hlogins : ∀ p ∈ rounds, p.1.sourceLogins = p.2.sourceLogins := by
    intro p hp
    obtain ⟨m, hm⟩ := hrounds.exists_mapping hp
    have hleft : p.1.sourceLogins = [] :=
      List.map_eq_nil_iff.1 (hm.left.sourceLogins.trans hplain)
    have hright : p.2.sourceLogins = [] :=
      List.map_eq_nil_iff.1 (hm.right.sourceLogins.trans hplain)
    rw [hleft, hright]
  exact ⟨hacc, hpushes, hpulls rfl hlogins, hrecord, hfailed, hrun.symm.trans hfailed⟩

end Task

end RegistrySync
