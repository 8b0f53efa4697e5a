import RegistrySync.Proofs.World.Transcript

/-!
Two runs side by side.

Two runs are compared as long as their worlds answer alike, position by position, where logins may
say different things. `Couples f g P` says that as long as that is so, `f` and `g` make the same
calls except for the credentials in them and say the same lines, and their exchanges and results are
related by `P`. Once the worlds answer differently, nothing is said.
-/

namespace RegistrySync

def Call.withoutAuth : Call → Call
  | .pull reference _ allTags verbose => .pull reference "" allTags verbose
  | .push reference allTags _ verbose => .push reference allTags "" verbose
  | c => c

def Event.withoutAuth : Event → Event
  | .line l => .line l
  | .call c => .call c.withoutAuth

namespace Exchange

/-- The same outcome, except for what a login says. -/
structure IsAlike (x y : Exchange) : Prop where
  failure : x.failure? = y.failure?
  images : x.images = y.images

instance (x y : Exchange) : Decidable (x.IsAlike y) :=
  decidable_of_iff (x.failure? = y.failure? ∧ x.images = y.images)
    ⟨fun h => ⟨h.1, h.2⟩, fun h => ⟨h.failure, h.images⟩⟩

/-- At each position that both have, they have the same outcome, except for what logins say. -/
def InAccord (xs ys : List Exchange) : Prop := ∀ p ∈ xs.zip ys, p.1.IsAlike p.2

instance (xs ys : List Exchange) : Decidable (InAccord xs ys) :=
  inferInstanceAs (Decidable (∀ p ∈ xs.zip ys, p.1.IsAlike p.2))

namespace InAccord

variable {xs ys us ws : List Exchange}

lemma left (h : InAccord (xs ++ us) (ys ++ ws)) : InAccord xs ys := by
  induction xs generalizing ys with
  | nil =>
    intro p hp
    rw [List.zip_nil_left] at hp
    cases hp
  | cons x xs ih =>
    rcases ys with _ | ⟨y, ys⟩
    · intro p hp
      rw [List.zip_nil_right] at hp
      cases hp
    · intro p hp
      rcases List.mem_cons.1 hp with rfl | hp
      · exact h _ List.mem_cons_self
      · exact ih (fun q hq => h q (List.mem_cons_of_mem _ hq)) p hp

lemma right (h : InAccord (xs ++ us) (ys ++ ws)) (hlen : xs.length = ys.length) :
    InAccord us ws := by
  intro p hp
  refine h p ?_
  rw [List.zip_append hlen]
  exact List.mem_append_right _ hp

end InAccord

end Exchange

namespace World

open Exchange

variable {σ τ α β γ δ : Type}

/-- States with a record of all that happens and a transcript of the calls. -/
abbrev Seen (σ : Type) : Type := Kept (σ × List Event)

abbrev watched (w : World σ) : World (Seen σ) := w.recorded.transcribed

/-- What is recorded between two states. -/
structure Gains (s t : Seen σ) (xs : List Exchange) (es : List Event) : Prop where
  exchanges : t.2 = s.2 ++ xs
  events : t.1.2 = es ++ s.1.2

lemma Gains.trans {s t u : Seen σ} {xs ys : List Exchange} {es ds : List Event}
    (h : Gains s t xs es) (h' : Gains t u ys ds) : Gains s u (xs ++ ys) (ds ++ es) := by
  refine ⟨?_, ?_⟩
  · rw [h'.exchanges, h.exchanges, List.append_assoc]
  · rw [h'.events, h.events, List.append_assoc]

/-- The same calls except for credentials, and the same lines. -/
structure AreAlike (xs ys : List Exchange) (es ds : List Event) : Prop where
  calls : xs.map (·.call.withoutAuth) = ys.map (·.call.withoutAuth)
  events : es.map Event.withoutAuth = ds.map Event.withoutAuth

namespace AreAlike

variable {xs ys us ws : List Exchange} {es ds ees dds : List Event}

lemma length (h : AreAlike xs ys es ds) : xs.length = ys.length := by
  have := congrArg List.length h.calls
  rwa [List.length_map, List.length_map] at this

lemma append (h : AreAlike xs ys es ds) (h' : AreAlike us ws ees dds) :
    AreAlike (xs ++ us) (ys ++ ws) (ees ++ es) (dds ++ ds) := by
  refine ⟨?_, ?_⟩
  · rw [List.map_append, List.map_append, h.calls, h'.calls]
  · rw [List.map_append, List.map_append, h.events, h'.events]

end AreAlike

/-- The same failure or none, whatever else there is. -/
def FailAlike (r : Except Error α) (r' : Except Error β) : Prop :=
  r.map (fun _ => ()) = r'.map fun _ => ()

namespace FailAlike

variable {r : Except Error α} {r' : Except Error β}

lemma refl (r : Except Error α) : FailAlike r r := rfl

lemma of_isAlike {x y : Exchange} (h : x.IsAlike y) : FailAlike x.outcome y.outcome := by
  obtain ⟨hfailure, -⟩ := h
  rw [failure?, failure?] at hfailure
  rcases hx : x.outcome with e | a <;> rcases hy : y.outcome with e' | a'
  all_goals rw [hx, hy] at hfailure
  · exact congrArg Except.error (Option.some.inj hfailure)
  · cases hfailure
  · cases hfailure
  · rfl

lemma mapError (h : FailAlike r r') (meaning : Error → Error) :
    FailAlike (r.mapError meaning) (r'.mapError meaning) := by
  rcases r with e | a <;> rcases r' with e' | a'
  · exact congrArg (fun e => Except.error (meaning e)) (Except.error.inj h)
  · cases h
  · cases h
  · rfl

end FailAlike

def results (R : α → β → Prop) : List Exchange → α → List Exchange → β → Prop :=
  fun _ a _ b => R a b

/-- What `f` and `g` record is alike, and is related by `P` with their results, unless the worlds
answer differently. -/
def Couples (f : StateM (Seen σ) α) (g : StateM (Seen τ) β)
    (P : List Exchange → α → List Exchange → β → Prop) : Prop :=
  ∀ s t, ∃ xs ys es ds, Gains s (f s).2 xs es ∧ Gains t (g t).2 ys ds ∧
    (InAccord xs ys → AreAlike xs ys es ds ∧ P xs (f s).1 ys (g t).1)

namespace Couples

variable {v : World σ} {w : World τ} {f : StateM (Seen σ) α} {g : StateM (Seen τ) β}
  {P : List Exchange → α → List Exchange → β → Prop}

lemma mono {P' : List Exchange → α → List Exchange → β → Prop} (h : Couples f g P)
    (hP : ∀ xs a ys b, P xs a ys b → P' xs a ys b) : Couples f g P' := by
  intro s t
  obtain ⟨xs, ys, es, ds, hs, ht, hcouple⟩ := h s t
  exact ⟨xs, ys, es, ds, hs, ht, fun hacc => ⟨(hcouple hacc).1, hP _ _ _ _ (hcouple hacc).2⟩⟩

lemma and_adds {A : List Exchange → α → Prop} {B : List Exchange → β → Prop} (h : Couples f g P)
    (hf : Adds f A) (hg : Adds g B) :
    Couples f g fun xs a ys b => P xs a ys b ∧ A xs a ∧ B ys b := by
  intro s t
  obtain ⟨xs, ys, es, ds, hs, ht, hcouple⟩ := h s t
  obtain ⟨xs', hx, hA⟩ := hf s.1 s.2
  obtain ⟨ys', hy, hB⟩ := hg t.1 t.2
  obtain rfl := List.append_cancel_left (hs.exchanges.symm.trans hx)
  obtain rfl := List.append_cancel_left (ht.exchanges.symm.trans hy)
  exact ⟨xs, ys, es, ds, hs, ht, fun hacc => ⟨(hcouple hacc).1, (hcouple hacc).2, hA, hB⟩⟩

lemma and_calls (h : Couples f g P) : Couples f g fun xs a ys b =>
    P xs a ys b ∧ xs.map (·.call.withoutAuth) = ys.map (·.call.withoutAuth) := by
  intro s t
  obtain ⟨xs, ys, es, ds, hs, ht, hcouple⟩ := h s t
  exact ⟨xs, ys, es, ds, hs, ht, fun hacc =>
    ⟨(hcouple hacc).1, (hcouple hacc).2, (hcouple hacc).1.calls⟩⟩

lemma pure {a : α} {b : β} (h : P [] a [] b) :
    Couples (Pure.pure a : StateM (Seen σ) α) (Pure.pure b : StateM (Seen τ) β) P :=
  fun _ _ => ⟨[], [], [], [], ⟨(List.append_nil _).symm, rfl⟩, ⟨(List.append_nil _).symm, rfl⟩,
    fun _ => ⟨⟨rfl, rfl⟩, h⟩⟩

lemma map (h : Couples f g P) (k : α → γ) (k' : β → δ) :
    Couples (f >>= fun a => Pure.pure (k a)) (g >>= fun b => Pure.pure (k' b))
      fun xs c ys d => ∃ a b, P xs a ys b ∧ c = k a ∧ d = k' b := by
  intro s t
  obtain ⟨xs, ys, es, ds, hs, ht, hcouple⟩ := h s t
  exact ⟨xs, ys, es, ds, hs, ht, fun hacc =>
    ⟨(hcouple hacc).1, _, _, (hcouple hacc).2, rfl, rfl⟩⟩

/-- What follows is compared for related results. Each run goes on by itself once the worlds have
answered differently, so there the relation has to be reflexive. -/
lemma bind {g : StateM (Seen τ) α} {f' : α → StateM (Seen σ) γ} {g' : α → StateM (Seen τ) δ}
    {P : List Exchange → α → List Exchange → α → Prop} {R : α → α → Prop}
    {Q : α → α → List Exchange → γ → List Exchange → δ → Prop} (hrefl : ∀ a, R a a)
    (hf : Couples f g P) (hP : ∀ xs a ys b, P xs a ys b → R a b)
    (hg : ∀ a b, R a b → Couples (f' a) (g' b) (Q a b)) :
    Couples (f >>= f') (g >>= g') fun zs c zs' d => ∃ xs a us ys b ws,
      P xs a ys b ∧ Q a b us c ws d ∧ zs = xs ++ us ∧ zs' = ys ++ ws := by
  intro s t
  obtain ⟨xs, ys, es, ds, hs, ht, hcouple⟩ := hf s t
  by_cases hacc : InAccord xs ys
  · obtain ⟨halike, hp⟩ := hcouple hacc
    obtain ⟨us, ws, ees, dds, hs', ht', hcouple'⟩ :=
      hg (f s).1 (g t).1 (hP _ _ _ _ hp) (f s).2 (g t).2
    refine ⟨xs ++ us, ys ++ ws, _, _, hs.trans hs', ht.trans ht', fun hall => ?_⟩
    obtain ⟨halike', hq⟩ := hcouple' (hall.right halike.length)
    exact ⟨halike.append halike', xs, _, us, ys, _, ws, hp, hq, rfl, rfl⟩
  · obtain ⟨us, _, ees, _, hs', -, -⟩ := hg (f s).1 (f s).1 (hrefl _) (f s).2 (g t).2
    obtain ⟨_, ws, _, dds, -, ht', -⟩ := hg (g t).1 (g t).1 (hrefl _) (f s).2 (g t).2
    exact ⟨xs ++ us, ys ++ ws, _, _, hs.trans hs', ht.trans ht', fun hall => absurd hall.left hacc⟩

lemma next {g : StateM (Seen τ) α} {f' : α → StateM (Seen σ) γ} {g' : α → StateM (Seen τ) δ}
    {R : α → α → Prop} {S : γ → δ → Prop} (hrefl : ∀ a, R a a) (hf : Couples f g (results R))
    (hg : ∀ a b, R a b → Couples (f' a) (g' b) (results S)) :
    Couples (f >>= f') (g >>= g') (results S) := by
  refine (bind hrefl hf (fun _ _ _ _ h => h) hg).mono ?_
  rintro _ c _ d ⟨xs, a, us, ys, b, ws, -, hs, -, -⟩
  exact hs

lemma next_eq {g : StateM (Seen τ) α} {f' : α → StateM (Seen σ) γ} {g' : α → StateM (Seen τ) δ}
    {S : γ → δ → Prop} (hf : Couples f g (results Eq))
    (hg : ∀ a, Couples (f' a) (g' a) (results S)) : Couples (f >>= f') (g >>= g') (results S) :=
  next (fun _ => rfl) hf fun a _ h => h ▸ hg a

lemma gains_say (v : World σ) (l : Level) (m : String) (s : Seen σ) :
    Gains s (v.watched.say l m s).2 [] [.line ⟨l, m⟩] := ⟨(List.append_nil _).symm, rfl⟩

lemma say (l : Level) (m : String) :
    Couples (v.watched.say l m) (w.watched.say l m) (results Eq) :=
  fun s t => ⟨[], [], _, _, gains_say v l m s, gains_say w l m t, fun _ => ⟨⟨rfl, rfl⟩, rfl⟩⟩

lemma line {l : Level} {m : String} (h : Couples f g P) :
    Couples (v.watched.say l m >>= fun _ => f) (w.watched.say l m >>= fun _ => g) P := by
  intro s t
  obtain ⟨xs, ys, es, ds, hs, ht, hcouple⟩ := h (v.watched.say l m s).2 (w.watched.say l m t).2
  refine ⟨xs, ys, _, _, (gains_say v l m s).trans hs, (gains_say w l m t).trans ht, fun hacc => ?_⟩
  obtain ⟨halike, hp⟩ := hcouple hacc
  exact ⟨AreAlike.append (⟨rfl, rfl⟩ : AreAlike [] [] _ _) halike, hp⟩

lemma line_after {l : Level} {m : String} (h : Couples f g P) :
    Couples (f >>= fun a => v.watched.say l m >>= fun _ => Pure.pure a)
      (g >>= fun b => w.watched.say l m >>= fun _ => Pure.pure b) P := by
  intro s t
  obtain ⟨xs, ys, es, ds, hs, ht, hcouple⟩ := h s t
  have hs' := hs.trans (gains_say v l m (f s).2)
  have ht' := ht.trans (gains_say w l m (g t).2)
  rw [List.append_nil] at hs' ht'
  refine ⟨xs, ys, _, _, hs', ht', fun hacc => ?_⟩
  obtain ⟨⟨hcalls, hevents⟩, hp⟩ := hcouple hacc
  exact ⟨⟨hcalls, congrArg (Event.line ⟨l, m⟩ :: ·) hevents⟩, hp⟩

/-! ### Steps that may fail -/

lemma ask (c : Call) : Couples (v.watched.ask c).run (w.watched.ask c).run
    (results fun r r' => (⟨c, r⟩ : Exchange).IsAlike ⟨c, r'⟩) :=
  fun _ _ => ⟨[⟨c, _⟩], [⟨c, _⟩], [.call c], [.call c], ⟨rfl, rfl⟩, ⟨rfl, rfl⟩,
    fun hacc => ⟨⟨rfl, rfl⟩, hacc _ List.mem_cons_self⟩⟩

lemma ask_list (reference : String) :
    Couples (v.watched.ask (.list reference)).run (w.watched.ask (.list reference)).run
      (results Eq) := by
  refine (ask (.list reference)).mono ?_
  rintro xs (e | images) ys (e' | images') ⟨hfailure, himages⟩
  · exact congrArg Except.error (Option.some.inj hfailure)
  · cases hfailure
  · cases hfailure
  · exact congrArg Except.ok himages

lemma ask_failAlike (c : Call) :
    Couples (v.watched.ask c).run (w.watched.ask c).run (results FailAlike) :=
  (ask c).mono fun _ _ _ _ h => FailAlike.of_isAlike h

lemma askFor {c d : Call} (h : c.withoutAuth = d.withoutAuth) (meaning : Error → Error) :
    Couples (v.watched.askFor c meaning).run (w.watched.askFor d meaning).run
      (results FailAlike) := by
  intro s t
  refine ⟨[⟨c, (v.answer c s.1.1).1⟩], [⟨d, (w.answer d t.1.1).1⟩], [.call c], [.call d],
    ⟨rfl, rfl⟩, ⟨rfl, rfl⟩, fun hacc => ⟨⟨?_, ?_⟩, ?_⟩⟩
  · exact congrArg (fun c => [c]) h
  · exact congrArg (fun c => [Event.call c]) h
  · exact (FailAlike.of_isAlike (hacc _ List.mem_cons_self)).mapError meaning

lemma verdict {f : Attempt (Seen σ) Unit} {g : Attempt (Seen τ) Unit}
    (h : Couples f.run g.run (results FailAlike)) :
    Couples f.run g.run (results Eq) := by
  refine h.mono ?_
  rintro xs (e | a) ys (e' | a') hr
  all_goals cases hr
  all_goals rfl

variable {f : Attempt (Seen σ) α} {g : Attempt (Seen τ) α}

lemma attempt_bind {f' : α → Attempt (Seen σ) γ} {g' : α → Attempt (Seen τ) γ}
    (hf : Couples f.run g.run (results Eq))
    (hg : ∀ a, Couples (f' a).run (g' a).run (results Eq)) :
    Couples (f >>= f').run (g >>= g').run (results Eq) := by
  rw [ExceptT.run_bind, ExceptT.run_bind]
  refine next_eq hf fun r => ?_
  rcases r with e | a
  · exact Couples.pure rfl
  · exact hg a

lemma attempt_map (h : Couples f.run g.run (results FailAlike)) (k k' : α → γ) :
    Couples (f >>= fun a => Pure.pure (k a)).run (g >>= fun a => Pure.pure (k' a)).run
      (results FailAlike) := by
  rw [ExceptT.run_bind, ExceptT.run_bind]
  refine next FailAlike.refl h ?_
  rintro (e | a) (e' | a') hr
  · obtain rfl := Except.error.inj hr
    exact Couples.pure rfl
  · cases hr
  · cases hr
  · exact Couples.pure rfl

lemma lift {f : StateM (Seen σ) α} {g : StateM (Seen τ) α} (h : Couples f g (results Eq)) :
    Couples (liftM f : Attempt (Seen σ) α).run (liftM g : Attempt (Seen τ) α).run (results Eq) := by
  intro s t
  obtain ⟨xs, ys, es, ds, hs, ht, hcouple⟩ := h s t
  exact ⟨xs, ys, es, ds, hs, ht, fun hacc =>
    ⟨(hcouple hacc).1, congrArg Except.ok (hcouple hacc).2⟩⟩

lemma forM {ι : Type} {f : ι → Attempt (Seen σ) Unit} {g : ι → Attempt (Seen τ) Unit}
    (h : ∀ i, Couples (f i).run (g i).run (results Eq)) (is : List ι) :
    Couples (is.forM f).run (is.forM g).run (results Eq) := by
  induction is with
  | nil => exact Couples.pure rfl
  | cons i is ih => exact attempt_bind (h i) fun _ => ih

end Couples

end World

end RegistrySync
