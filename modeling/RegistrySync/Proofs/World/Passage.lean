import RegistrySync.Proofs.World.Extension
import RegistrySync.Proofs.World.Invariant
import RegistrySync.Proofs.World.Transcript

/-!
How the calls of a program lead from one state of a world to another.

`Leads w s xs s'` says that the exchanges `xs` take the world from `s` to `s'`: each call is
answered in the state that the calls and lines before it have led to. Whatever runs in a world that
keeps a transcript, the transcript leads to the state that is left behind, and it is the same
transcript behind whatever history.
-/

namespace RegistrySync.World

variable {σ τ α β : Type} {w : World σ} {s s' s'' : σ} {xs ys h : List Exchange}

/-- The exchanges, with lines between them, lead from one state to the other. -/
inductive Leads (w : World σ) : σ → List Exchange → σ → Prop
  | refl {s : σ} : Leads w s [] s
  | line {s s' : σ} {xs : List Exchange} (l : Line) (h : Leads w (w.print l s) xs s') :
      Leads w s xs s'
  | call {s s' : σ} {xs : List Exchange} (c : Call) (h : Leads w (w.answer c s).2 xs s') :
      Leads w s (⟨c, (w.answer c s).1⟩ :: xs) s'

namespace Leads

lemma trans (hxs : Leads w s xs s') (hys : Leads w s' ys s'') : Leads w s (xs ++ ys) s'' := by
  induction hxs with
  | refl => exact hys
  | line l _ ih => exact .line l (ih hys)
  | call c _ ih => exact .call c (ih hys)

lemma split (hxs : Leads w s (xs ++ ys) s') : ∃ between, Leads w s xs between ∧
    Leads w between ys s' := by
  generalize hzs : xs ++ ys = zs at hxs
  induction hxs generalizing xs with
  | refl =>
    obtain ⟨rfl, rfl⟩ := List.append_eq_nil_iff.1 hzs
    exact ⟨_, .refl, .refl⟩
  | line l _ ih =>
    obtain ⟨between, hbefore, hafter⟩ := ih hzs
    exact ⟨between, .line l hbefore, hafter⟩
  | @call s s' zs c hrest ih =>
    rcases xs with _ | ⟨x, xs⟩
    · obtain rfl : ys = _ :: zs := hzs
      exact ⟨_, .refl, .call c hrest⟩
    · obtain ⟨rfl, htail⟩ := List.cons.inj hzs
      obtain ⟨between, hbefore, hafter⟩ := ih htail
      exact ⟨between, .call c hbefore, hafter⟩

end Leads

/-! ### Transcripts behind a history -/

/-- A world in which only states with a property are left, where all that happens keeps it. -/
def restricted {I : σ → Prop} (w : World σ) (hw : w.Maintains (fun _ => True) I) :
    World {s // I s} where
  answer c s := ((w.answer c s.1).1, ⟨(w.answer c s.1).2, hw.answer c s.1 trivial s.2⟩)
  print l s := ⟨w.print l s.1, hw.print l s.1 s.2⟩

lemma keeps_of_tracks {I : σ → Prop} {f : StateM {s // I s} α} {g : StateM σ α}
    (h : Tracks Subtype.val f g) : Keeps I g := by
  intro s hs
  rw [h ⟨s, hs⟩]
  exact (f ⟨s, hs⟩).2.2

lemma restricted_extends {I : σ → Prop} (hw : w.Maintains (fun _ => True) I) :
    Extends Subtype.val (w.restricted hw) w :=
  ⟨fun _ _ => rfl, fun _ _ => rfl⟩

/-- The transcript that was kept since `s` leads to the state. -/
def HasLed (w : World σ) (s : σ) (h : List Exchange) (now : Kept σ) : Prop :=
  ∃ xs, now.2 = h ++ xs ∧ Leads w s xs now.1

lemma maintains_hasLed (w : World σ) (s : σ) (h : List Exchange) :
    w.transcribed.Maintains (fun _ => True) (HasLed w s h) := by
  refine ⟨?_, ?_⟩
  · rintro c now - ⟨xs, hxs, hled⟩
    refine ⟨xs ++ [⟨c, (w.answer c now.1).1⟩], ?_, hled.trans (.call c .refl)⟩
    rw [← List.append_assoc, ← hxs]
    rfl
  · rintro l now ⟨xs, hxs, hled⟩
    refine ⟨xs, hxs, ?_⟩
    rw [← xs.append_nil]
    exact hled.trans (.line l .refl)

lemma transcribed_extends_history (w : World σ) (h : List Exchange) :
    Extends (fun now : Kept σ => (now.1, h ++ now.2)) w.transcribed w.transcribed := by
  refine ⟨fun c now => ?_, fun _ _ => rfl⟩
  simp [transcribed]

/-! ### Programs -/

/-- Wherever `f` starts, the state, what it adds to the transcript, its result and the state that it
leaves are as `P` says. -/
def Goes (f : StateM (Kept σ) α) (P : σ → List Exchange → α → σ → Prop) : Prop :=
  ∀ s h, ∃ xs, (f (s, h)).2.2 = h ++ xs ∧ P s xs (f (s, h)).1 (f (s, h)).2.1

namespace Goes

variable {f : StateM (Kept σ) α} {g : α → StateM (Kept σ) β}
  {P : σ → List Exchange → α → σ → Prop} {Q : α → σ → List Exchange → β → σ → Prop}

lemma mono {P' : σ → List Exchange → α → σ → Prop} (hf : Goes f P)
    (hP : ∀ s xs a s', P s xs a s' → P' s xs a s') : Goes f P' := by
  intro s h
  obtain ⟨xs, hxs, hp⟩ := hf s h
  exact ⟨xs, hxs, hP _ _ _ _ hp⟩

lemma pure (a : α) : Goes (Pure.pure a : StateM (Kept σ) α)
    fun s xs b s' => xs = [] ∧ b = a ∧ s' = s :=
  fun _ h => ⟨[], (List.append_nil h).symm, rfl, rfl, rfl⟩

lemma bind (hf : Goes f P) (hg : ∀ a, Goes (g a) (Q a)) : Goes (f >>= g) fun s zs b s'' =>
    ∃ xs a s' ys, P s xs a s' ∧ Q a s' ys b s'' ∧ zs = xs ++ ys := by
  intro s h
  obtain ⟨xs, hx, hp⟩ := hf s h
  obtain ⟨ys, hy, hq⟩ := hg (f (s, h)).1 (f (s, h)).2.1 (f (s, h)).2.2
  refine ⟨xs ++ ys, ?_, xs, _, _, ys, hp, hq, rfl⟩
  rw [← List.append_assoc, ← hx]
  exact hy

lemma say (l : Level) (m : String) : Goes (w.transcribed.say l m) fun s xs _ s' =>
    xs = [] ∧ Leads w s [] s' :=
  fun _ h => ⟨[], (List.append_nil h).symm, rfl, .line _ .refl⟩

lemma of_adds {P : List Exchange → α → Prop} (hf : Adds f P)
    (hkeeps : ∀ s h, Keeps (HasLed w s h) f) :
    Goes f fun s xs a s' => P xs a ∧ Leads w s xs s' := by
  intro s h
  obtain ⟨xs, hxs, hp⟩ := hf s h
  obtain ⟨ys, hys, hled⟩ := hkeeps s h (s, h) ⟨[], (List.append_nil h).symm, .refl⟩
  obtain rfl : xs = ys := List.append_cancel_left (hxs.symm.trans hys)
  exact ⟨xs, hxs, hp, hled⟩

/-- A program that does the same behind any history has one transcript for each state. -/
lemma of_tracks {f : StateM (Kept σ) α} {g : StateM σ α}
    (hhistory : ∀ h, Tracks (fun now : Kept σ => (now.1, h ++ now.2)) f f)
    (hplain : Tracks Prod.fst f g) :
    Goes f fun s xs a s' => xs = (f (s, [])).2.2 ∧ g s = (a, s') := by
  intro s h
  have hstart : f (s, h) = ((f (s, [])).1, (f (s, [])).2.1, h ++ (f (s, [])).2.2) := by
    simpa only [List.append_nil] using hhistory h (s, [])
  refine ⟨_, congrArg (·.2.2) hstart, rfl, ?_⟩
  exact hplain (s, h)

end Goes

end RegistrySync.World
