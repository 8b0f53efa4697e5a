import RegistrySync.Proofs.World.Attempt
import RegistrySync.World.Recorder

/-!
What steps in a world add to its transcript.

`Adds f P` says that whatever the world does, the exchanges of `f` together with its result satisfy
`P`. Lines add nothing; a call adds itself with its outcome; steps one after the other add what each
of them adds, up to the first failure.
-/

namespace RegistrySync

namespace Exchange

/-- What comes of an exchange when its failure is given another meaning. -/
def verdict (x : Exchange) (meaning : Error → Error) : Except Error Unit :=
  match x.failure? with
  | none => .ok ()
  | some e => .error (meaning e)

lemma failure?_of_verdict_ok {x : Exchange} {meaning : Error → Error}
    (h : x.verdict meaning = .ok ()) : x.failure? = none := by
  rcases hx : x.failure? with _ | e
  · rfl
  · rw [verdict, hx] at h
    cases h

lemma failure?_of_verdict_error {x : Exchange} {meaning : Error → Error} {e : Error}
    (h : x.verdict meaning = .error e) : ∃ e', x.failure? = some e' ∧ e = meaning e' := by
  rcases hx : x.failure? with _ | e'
  · rw [verdict, hx] at h
    cases h
  · rw [verdict, hx] at h
    cases h
    exact ⟨e', rfl, rfl⟩

/-- Calls made in turn, up to the first that fails. -/
inductive InTurn : List Call → List Exchange → Prop
  | nil : InTurn [] []
  | failed {x : Exchange} {e : Error} {cs : List Call} (h : x.failure? = some e) :
      InTurn (x.call :: cs) [x]
  | succeeded {x : Exchange} {cs : List Call} {xs : List Exchange} (h : x.failure? = none)
      (hs : InTurn cs xs) : InTurn (x.call :: cs) (x :: xs)

lemma InTurn.isPrefix {cs : List Call} {xs : List Exchange} (h : InTurn cs xs) :
    xs.map (·.call) <+: cs := by
  induction h with
  | nil => exact List.prefix_rfl
  | failed => simp
  | succeeded _ _ ih => exact (List.prefix_cons_inj _).2 ih

lemma InTurn.calls_eq {cs : List Call} {xs : List Exchange} (h : InTurn cs xs)
    (hok : ∀ x ∈ xs, x.failure? = none) : xs.map (·.call) = cs := by
  induction h with
  | nil => rfl
  | @failed x e cs hx =>
    have := hok x List.mem_cons_self
    rw [hx] at this
    cases this
  | @succeeded x cs xs hx _ ih =>
    rw [List.map_cons, ih fun y hy => hok y (List.mem_cons_of_mem x hy)]

/-- A loop over calls makes them in turn, and the first failure is what it comes to. -/
structure IsLoop {ι : Type} (call : ι → Call) (meaning : ι → Error → Error) (is : List ι)
    (xs : List Exchange) (r : Except Error Unit) : Prop where
  inTurn : InTurn (is.map call) xs
  ok : (∀ x ∈ xs, x.failure? = none) → r = .ok ()
  failed : ∀ x ∈ xs, ∀ e, x.failure? = some e →
    ∃ i ∈ is, x.call = call i ∧ r = .error (meaning i e)

namespace IsLoop

variable {ι : Type} {call : ι → Call} {meaning : ι → Error → Error} {i : ι} {is : List ι}
  {x : Exchange} {xs : List Exchange} {r : Except Error Unit} {e : Error}

lemma nil : IsLoop call meaning [] [] (.ok ()) := ⟨.nil, fun _ => rfl, nofun⟩

lemma stopped (hc : x.call = call i) (hx : x.failure? = some e) :
    IsLoop call meaning (i :: is) [x] (.error (meaning i e)) := by
  refine ⟨?_, fun h => ?_, fun y hy e' he => ?_⟩
  · rw [List.map_cons, ← hc]
    exact .failed hx
  · have := h x List.mem_cons_self
    rw [hx] at this
    cases this
  · obtain rfl := List.mem_singleton.1 hy
    obtain rfl := Option.some.inj (hx.symm.trans he)
    exact ⟨i, List.mem_cons_self, hc, rfl⟩

lemma cons (hc : x.call = call i) (hx : x.failure? = none) (h : IsLoop call meaning is xs r) :
    IsLoop call meaning (i :: is) (x :: xs) r := by
  refine ⟨?_, fun hall => h.ok fun y hy => hall y (List.mem_cons_of_mem x hy), fun y hy e he => ?_⟩
  · rw [List.map_cons, ← hc]
    exact .succeeded hx h.inTurn
  · rcases List.mem_cons.1 hy with rfl | hy
    · rw [hx] at he
      cases he
    · obtain ⟨j, hj, hcall, hr⟩ := h.failed y hy e he
      exact ⟨j, List.mem_cons_of_mem i hj, hcall, hr⟩

lemma failure?_ne (h : IsLoop call meaning is xs (.ok ())) :
    ∀ x ∈ xs, ∀ e, x.failure? ≠ some e := by
  intro x hx e he
  obtain ⟨_, -, -, hr⟩ := h.failed x hx e he
  cases hr

lemma not_forall (h : IsLoop call meaning is xs (.error e)) : ¬ ∀ x ∈ xs, x.failure? = none :=
  fun hall => nomatch h.ok hall

end IsLoop

end Exchange

namespace World

variable {σ α β : Type}

abbrev Kept (σ : Type) : Type := σ × List Exchange

/-- The exchanges that are added, with the result, are as `P` says. -/
def Adds (f : StateM (Kept σ) α) (P : List Exchange → α → Prop) : Prop :=
  ∀ s h, ∃ xs, (f (s, h)).2.2 = h ++ xs ∧ P xs (f (s, h)).1

namespace Adds

variable {f : StateM (Kept σ) α} {g : α → StateM (Kept σ) β} {P : List Exchange → α → Prop}
  {Q : α → List Exchange → β → Prop} {w : World σ}

lemma mono {P' : List Exchange → α → Prop} (h : Adds f P) (hP : ∀ xs a, P xs a → P' xs a) :
    Adds f P' := by
  intro s l
  obtain ⟨xs, hx, hp⟩ := h s l
  exact ⟨xs, hx, hP _ _ hp⟩

lemma pure (a : α) : Adds (Pure.pure a : StateM (Kept σ) α) fun xs b => xs = [] ∧ b = a :=
  fun _ h => ⟨[], (List.append_nil h).symm, rfl, rfl⟩

lemma bind (hf : Adds f P) (hg : ∀ a, Adds (g a) (Q a)) :
    Adds (f >>= g) fun zs b => ∃ xs a ys, P xs a ∧ Q a ys b ∧ zs = xs ++ ys := by
  intro s h
  obtain ⟨xs, hx, hp⟩ := hf s h
  obtain ⟨ys, hy, hq⟩ := hg (f (s, h)).1 (f (s, h)).2.1 (f (s, h)).2.2
  refine ⟨xs ++ ys, ?_, xs, _, ys, hp, hq, rfl⟩
  rw [← List.append_assoc, ← hx]
  exact hy

lemma line {l : Level} {m : String} (h : Adds f P) :
    Adds (w.transcribed.say l m >>= fun _ => f) P :=
  fun _ _ => h _ _

/-! ### Steps that may fail -/

variable {f : Attempt (Kept σ) α} {g : α → Attempt (Kept σ) β}
  {P : List Exchange → Except Error α → Prop} {Q : α → List Exchange → Except Error β → Prop}

lemma attempt_line {l : Level} {m : String} (h : Adds f.run P) :
    Adds ((liftM (w.transcribed.say l m) : Attempt (Kept σ) Unit) >>= fun _ => f).run P :=
  fun _ _ => h _ _

lemma attempt_lines {ι : Type} {l : Level} {m : ι → String} (is : List ι) (h : Adds f.run P) :
    Adds ((is.forM fun i => (liftM (w.transcribed.say l (m i)) : Attempt (Kept σ) Unit)) >>=
      fun _ => f).run P := by
  induction is with
  | nil => exact h
  | cons i is ih => exact fun _ _ => ih _ _

lemma attempt_lift {f : StateM (Kept σ) α} {P : List Exchange → α → Prop} (hf : Adds f P)
    (hg : ∀ a, Adds (g a).run (Q a)) :
    Adds ((liftM f : Attempt (Kept σ) α) >>= g).run fun zs r =>
      ∃ xs a ys, P xs a ∧ Q a ys r ∧ zs = xs ++ ys :=
  hf.bind hg

lemma attempt_bind (hf : Adds f.run P) (hg : ∀ a, Adds (g a).run (Q a)) :
    Adds (f >>= g).run fun zs r =>
      (∃ e, P zs (.error e) ∧ r = .error e) ∨
      ∃ xs a ys, P xs (.ok a) ∧ Q a ys r ∧ zs = xs ++ ys := by
  intro s h
  obtain ⟨xs, hx, hp⟩ := hf s h
  rw [attempt_run_bind]
  rcases hr : f.run (s, h) with ⟨e | a, after⟩
  all_goals rw [hr] at hx hp
  · exact ⟨xs, hx, .inl ⟨e, hp, rfl⟩⟩
  · obtain ⟨ys, hy, hq⟩ := hg a after.1 after.2
    refine ⟨xs ++ ys, ?_, .inr ⟨xs, a, ys, hp, hq, rfl⟩⟩
    rw [← List.append_assoc, ← hx]
    exact hy

lemma ask (c : Call) : Adds (w.transcribed.ask c).run fun xs r => xs = [⟨c, r⟩] :=
  fun _ _ => ⟨_, rfl, rfl⟩

lemma askFor (c : Call) (meaning : Error → Error) :
    Adds (w.transcribed.askFor c meaning).run fun xs r =>
      ∃ x : Exchange, x.call = c ∧ xs = [x] ∧ r.map (fun _ => ()) = x.verdict meaning := by
  intro s h
  refine ⟨_, rfl, ⟨c, (w.answer c s).1⟩, rfl, rfl, ?_⟩
  have hr : ((w.transcribed.askFor c meaning).run (s, h)).1 = (w.answer c s).1.mapError meaning :=
    rfl
  rw [hr]
  cases (w.answer c s).1 <;> rfl

lemma verdict {f : Attempt (Kept σ) Unit} {c : Call} {meaning : Error → Error}
    (h : Adds f.run fun xs r =>
      ∃ x : Exchange, x.call = c ∧ xs = [x] ∧ r.map (fun _ => ()) = x.verdict meaning) :
    Adds f.run fun xs r => ∃ x : Exchange, x.call = c ∧ xs = [x] ∧ r = x.verdict meaning := by
  refine h.mono ?_
  rintro xs r ⟨x, hc, hx, hr⟩
  refine ⟨x, hc, hx, ?_⟩
  rw [← hr]
  cases r <;> rfl

lemma forM {ι : Type} {f : ι → Attempt (Kept σ) Unit} {call : ι → Call}
    {meaning : ι → Error → Error}
    (hf : ∀ i, Adds (f i).run fun xs r =>
      ∃ x : Exchange, x.call = call i ∧ xs = [x] ∧ r = x.verdict (meaning i)) (is : List ι) :
    Adds (is.forM f).run (Exchange.IsLoop call meaning is) := by
  induction is with
  | nil => exact fun _ h => ⟨[], (List.append_nil h).symm, .nil⟩
  | cons i is ih =>
    refine (attempt_bind (hf i) fun _ => ih).mono ?_
    rintro zs r (⟨e, ⟨x, hc, rfl, hr⟩, rfl⟩ | ⟨_, _, ys, ⟨x, hc, rfl, hr⟩, hloop, rfl⟩)
    · obtain ⟨e', hx, rfl⟩ := Exchange.failure?_of_verdict_error hr.symm
      exact .stopped hc hx
    · exact .cons hc (Exchange.failure?_of_verdict_ok hr.symm) hloop

end Adds

end World

end RegistrySync
