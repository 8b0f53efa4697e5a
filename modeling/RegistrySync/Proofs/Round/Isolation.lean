import RegistrySync.Proofs.Round.Course
import RegistrySync.Proofs.World.Passage
import RegistrySync.World.Script

/-!
Each mapping of a task has a round of its own.

Whatever came before, and whatever comes of the logins and of the repository, a round goes through
all its parts: it asks for its logins, then for the repository, and then the transfer starts from
the state that these have led to, with the credentials that its own logins give. The task counts the
rounds whose transfer failed, and nothing else.
-/

namespace RegistrySync

open World

variable {σ : Type} {w : World σ}

namespace Task

/-- How the round of a mapping goes from one state to the next. -/
structure IsRoundFrom (w : World σ) (t : Task) (m : Mapping) (s : σ) (r : Round) (s' : σ) :
    Prop where
  /-- The logins are asked for where the registry of the location issues them. -/
  sourceLogins : r.sourceLogins.map (·.call) = t.source.loginCalls
  targetLogins : r.targetLogins.map (·.call) = t.target.loginCalls
  /-- The repository is asked for where the registry of the target wants that. -/
  ensured : r.ensured.map (·.call) = t.target.ensureCalls (t.target.under m.target)
  /-- From the state that these lead to, the transfer makes all its calls, with the credentials that
  the logins of this round give. -/
  transferred : ∃ ready, Leads w s (r.sourceLogins ++ r.targetLogins ++ r.ensured) ready ∧
    r.transferred = (r.transfer t m).transcript w ready ∧
    r.outcome = ((r.transfer t m).run w ready).1 ∧
    Leads w ((r.transfer t m).run w ready).2 [] s'

/-- How the rounds of mappings go, each from the state that the one before it has left. -/
inductive AreRoundsFrom (w : World σ) (t : Task) : σ → List Mapping → List Round → σ → Prop
  | nil {s : σ} : AreRoundsFrom w t s [] [] s
  | cons {s s' s'' : σ} {m : Mapping} {ms : List Mapping} {r : Round} {rs : List Round}
      (hr : t.IsRoundFrom w m s r s') (hrs : AreRoundsFrom w t s' ms rs s'') :
      AreRoundsFrom w t s (m :: ms) (r :: rs) s''

def failures (rs : List Round) : Nat := rs.countP fun r => !r.outcome.isOk

variable {t : Task} {m : Mapping} {s s' : σ}

/-! ### One round -/

lemma goes_credential (l : Location) : Goes (l.credential w.transcribed)
    fun s xs credential s' =>
      (xs.map (·.call) = l.loginCalls ∧ credential = l.credentialAfter xs) ∧ Leads w s xs s' :=
  Goes.of_adds l.adds_credential fun s h =>
    keeps_of_tracks (l.credential_tracks (restricted_extends (maintains_hasLed w s h)))

lemma goes_ensure (l : Location) (reference : String) :
    Goes (l.ensure w.transcribed reference).run fun s xs _ s' =>
      xs.map (·.call) = l.ensureCalls reference ∧ Leads w s xs s' :=
  Goes.of_adds (l.adds_ensure reference) fun s h =>
    keeps_of_tracks (l.ensure_tracks (restricted_extends (maintains_hasLed w s h)) reference)

lemma goes_report {α : Type} (outcome : Except Error α) : Goes (w.transcribed.report outcome)
    fun s xs failed s' => (xs = [] ∧ failed = !outcome.isOk) ∧ Leads w s xs s' :=
  Goes.of_adds (adds_report outcome) fun s h =>
    keeps_of_tracks (report_tracks (restricted_extends (maintains_hasLed w s h)) outcome)

lemma goes_transfer (x : Transfer) : Goes (x.run w.transcribed).run fun s xs outcome s' =>
    xs = x.transcript w s ∧ x.run w s = (outcome, s') :=
  Goes.of_tracks (fun h => Transfer.run_tracks (transcribed_extends_history w h))
    (Transfer.run_tracks (transcribed_extends w))

lemma goes_runMapping : Goes (t.runMapping w.transcribed m) fun s xs failed s' =>
    ∃ r, t.IsRoundFrom w m s r s' ∧ xs = r.exchanges ∧ failed = !r.outcome.isOk := by
  refine (Goes.bind (Goes.say (w := w) _ _) fun _ =>
    Goes.bind (goes_credential t.source) fun sourceAuth =>
    Goes.bind (goes_credential t.target) fun targetAuth =>
    Goes.bind (goes_ensure t.target (t.refs m).2) fun ensured =>
    Goes.bind (goes_report ensured) fun _ =>
    Goes.bind (goes_transfer (t.transfer m sourceAuth targetAuth)) fun outcome =>
    goes_report outcome).mono ?_
  -- the line, the logins, the repository, and the transfer from where these have led
  rintro s _ failed s' ⟨_, _, s₁, _, ⟨rfl, hline⟩,
    ⟨sourceLogins, _, s₂, _, ⟨⟨hsource, rfl⟩, hs₂⟩,
      ⟨targetLogins, _, s₃, _, ⟨⟨htarget, rfl⟩, hs₃⟩,
        ⟨ensured, _, s₄, _, ⟨hensured, hs₄⟩,
          ⟨_, _, ready, _, ⟨⟨rfl, -⟩, hready⟩,
            ⟨transferred, outcome, after, _, ⟨htransferred, hrun⟩, ⟨⟨rfl, rfl⟩, hafter⟩,
              rfl⟩, rfl⟩, rfl⟩, rfl⟩, rfl⟩, rfl⟩
  have hled : Leads w s (sourceLogins ++ targetLogins ++ ensured) ready := by
    have := hline.trans (hs₂.trans (hs₃.trans (hs₄.trans hready)))
    simpa using this
  let r : Round := ⟨sourceLogins, targetLogins, ensured, transferred, outcome⟩
  have htransfer : (r.transfer t m).run w ready = (outcome, after) := hrun
  refine ⟨r, ⟨hsource, htarget, hensured, ready, hled, htransferred, ?_, ?_⟩, ?_, rfl⟩
  · rw [htransfer]
  · rw [htransfer]
    exact hafter
  · simp [r, Round.exchanges]

/-! ### All rounds -/

lemma goes_runMappings (ms : List Mapping) : Goes (t.runMappings w.transcribed ms)
    fun s xs failed s' => ∃ rs, t.AreRoundsFrom w s ms rs s' ∧ xs = rs.flatMap Round.exchanges ∧
      failed = failures rs := by
  induction ms with
  | nil =>
    refine (Goes.pure 0).mono ?_
    rintro s xs failed s' ⟨rfl, rfl, rfl⟩
    exact ⟨[], .nil, rfl, rfl⟩
  | cons m ms ih =>
    refine (Goes.bind (goes_runMapping (t := t) (m := m)) fun failed =>
      Goes.bind ih fun more => Goes.pure ((if failed then 1 else 0) + more)).mono ?_
    rintro s _ _ s'' ⟨_, _, s', _, ⟨r, hr, rfl, rfl⟩,
      ⟨_, _, _, _, ⟨rs, hrs, rfl, rfl⟩, ⟨rfl, rfl, rfl⟩, rfl⟩, rfl⟩
    refine ⟨r :: rs, .cons hr hrs, ?_, ?_⟩
    · rw [List.append_nil, List.flatMap_cons]
    · rw [failures, failures, List.countP_cons, Nat.add_comm]

/-- How a task goes: a line, its rounds, and a line. -/
lemma goes_run : Goes (t.run w.transcribed) fun s xs failed s' => ∃ first rounds last,
    Leads w s [] first ∧ t.AreRoundsFrom w first t.mappings rounds last ∧ Leads w last [] s' ∧
      xs = rounds.flatMap Round.exchanges ∧ failed = failures rounds := by
  refine (Goes.bind (Goes.say (w := w) _ _) fun _ =>
    Goes.bind (goes_runMappings t.mappings) fun failed =>
    Goes.bind (Goes.say (w := w) _ _) fun _ => Goes.pure failed).mono ?_
  rintro s _ _ _ ⟨_, _, first, _, ⟨rfl, hfirst⟩,
    ⟨_, failed, last, _, ⟨rounds, hrounds, rfl, rfl⟩,
      ⟨_, _, s', _, ⟨rfl, hlast⟩, ⟨rfl, rfl, rfl⟩, rfl⟩, rfl⟩, rfl⟩
  exact ⟨first, rounds, last, hfirst, hrounds, hlast, by simp, rfl⟩

/-- **Each mapping has a round of its own.** In every world, the transcript of a task is made of one
round for each mapping, in their order, and each round goes as `IsRoundFrom` says from the state
that the round before it has left. As many mappings are said to have failed as there are rounds in
which the transfer failed. -/
theorem rounds_are_isolated (w : World σ) (t : Task) (s : σ) :
    ∃ first rounds last, Leads w s [] first ∧ t.AreRoundsFrom w first t.mappings rounds last ∧
      Leads w last [] (t.run w s).2 ∧
      (t.run w.transcribed (s, [])).2.2 = rounds.flatMap Round.exchanges ∧
      (t.run w s).1 = failures rounds := by
  have hplain : t.run w s =
      ((t.run w.transcribed (s, [])).1, (t.run w.transcribed (s, [])).2.1) :=
    run_tracks (transcribed_extends w) (s, [])
  obtain ⟨xs, hxs, first, rounds, last, hfirst, hrounds, hlast, rfl, hfailed⟩ :=
    goes_run (w := w) (t := t) s []
  rw [hplain]
  exact ⟨first, rounds, last, hfirst, hrounds, hlast, hxs, hfailed⟩

/-- The first login for the source, the repository of the first target and the pull for it fail;
the second round is none the worse for it. -/
theorem rounds_are_isolated_managed :
    let t : Task := ⟨"mirror", ⟨"111111111111.dkr.ecr.eu-west-1.amazonaws.com//", "b2xk"⟩,
      ⟨"222222222222.dkr.ecr.us-east-1.amazonaws.com/mirror", "a2VwdA=="⟩,
      [⟨"/a", "/b", []⟩, ⟨"/c", "/d", ["1"]⟩], 0, true⟩
    let denied : Error := .managedRegistry "denied"
    let newLogin := "eyJ1c2VybmFtZSI6IkFXUyIsInBhc3N3b3JkIjoibmV3Iiwic2VydmVyYWRkcmVzcyI6IjExMTExM" ++
      "TExMTExMS5ka3IuZWNyLmV1LXdlc3QtMS5hbWF6b25hd3MuY29tIn0="
    let secondLogin := "eyJ1c2VybmFtZSI6IkFXUyIsInBhc3N3b3JkIjoic2Vjb25kIiwic2VydmVyYWRkcmVzcyI6I" ++
      "jIyMjIyMjIyMjIyMi5ka3IuZWNyLnVzLWVhc3QtMS5hbWF6b25hd3MuY29tIn0="
    let w : World Script.State := Script.world
      ⟨fun topic =>
          if topic = ⟨"ensure", "mirror/b"⟩ then [⟨0, .error denied⟩]
          else if topic = ⟨"pull", "111111111111.dkr.ecr.eu-west-1.amazonaws.com/a"⟩ then
            [⟨0, .error (.daemon "down")⟩]
          else [],
        fun _ => [],
        fun region =>
          if region = "eu-west-1" then [⟨0, .error denied⟩, .success ⟨"AWS", "new"⟩]
          else [.success ⟨"AWS", "first"⟩, .success ⟨"AWS", "second"⟩]⟩
    (∃ first rounds last, Leads w Script.start [] first ∧
      t.AreRoundsFrom w first t.mappings rounds last ∧ Leads w last [] (t.run w Script.start).2 ∧
      (t.run w.transcribed (Script.start, [])).2.2 = rounds.flatMap Round.exchanges ∧
      failures rounds = 1) ∧
    ((t.run w.transcribed (Script.start, [])).2.2).map (·.call) =
      [.issueLogin "eu-west-1", .issueLogin "us-east-1",
        .ensureRepository ⟨"222222222222", "us-east-1"⟩ "mirror/b",
        .pull "111111111111.dkr.ecr.eu-west-1.amazonaws.com/a" "b2xk" true true,
        .issueLogin "eu-west-1", .issueLogin "us-east-1",
        .ensureRepository ⟨"222222222222", "us-east-1"⟩ "mirror/d",
        .pull "111111111111.dkr.ecr.eu-west-1.amazonaws.com/c:1" newLogin false true,
        .list "111111111111.dkr.ecr.eu-west-1.amazonaws.com/c:1",
        .push "222222222222.dkr.ecr.us-east-1.amazonaws.com/mirror/d" true secondLogin true] := by
  intro t denied newLogin secondLogin w
  obtain ⟨first, rounds, last, hfirst, hrounds, hlast, hcalls, hfailed⟩ :=
    rounds_are_isolated w t Script.start
  have hcount : (t.run w Script.start).1 = 1 := by decide +kernel
  exact ⟨⟨first, rounds, last, hfirst, hrounds, hlast, hcalls, hfailed.symm.trans hcount⟩,
    by decide +kernel⟩

end Task

end RegistrySync
