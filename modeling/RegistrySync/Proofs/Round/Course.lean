import RegistrySync.Proofs.Transfer.Course
import RegistrySync.Round

/-!
What a mapping asks of the world.

First come the logins for the source and for the target, then the repository, then the transfer.
Which logins and which repository are asked for is known from the locations; what came of the logins
tells the credentials of the transfer.
-/

namespace RegistrySync

open World

variable {σ : Type} {w : World σ}

/-! ### Locations -/

namespace Location

variable {l : Location} {identity : Identity}

/-- The login that is asked for at a location: one for its region if its registry is managed. -/
def loginCalls (l : Location) : List Call :=
  match Identity.parse l.registry with
  | none => []
  | some identity => [.issueLogin identity.region]

/-- The credential to use after what came of that: a login that was issued, for the host of the
location, or else the configured credential. -/
def credentialAfter (l : Location) : List Exchange → String
  | [⟨.issueLogin _, .ok login⟩] =>
    let r := Reference.parse l.registry
    Credential.encode ⟨login.username, login.password, if r.repo.isEmpty then r.path else r.repo⟩
  | _ => l.auth

/-- The repository that is asked for: the path of the reference, if there is one and the registry
of the location is managed. -/
def ensureCalls (l : Location) (reference : String) : List Call :=
  match Identity.parse l.registry with
  | none => []
  | some identity =>
    if (Reference.parse reference).path = "" then []
    else [.ensureRepository identity (Reference.parse reference).path]

/-- A path under a location: the endpoint without the slashes at its end, and the path. -/
def under (l : Location) (path : String) : String :=
  String.ofList (l.registry.toList.reverse.dropWhile (· == '/')).reverse ++ path

lemma loginCalls_plain (h : l.kind = .plain) : l.loginCalls = [] := by
  rw [loginCalls, kind_eq_plain_iff.1 h]

lemma loginCalls_managed (h : l.kind = .managed identity) :
    l.loginCalls = [.issueLogin identity.region] := by
  rw [loginCalls, kind_eq_managed_iff.1 h]

lemma ensureCalls_plain (h : l.kind = .plain) (reference : String) :
    l.ensureCalls reference = [] := by
  rw [ensureCalls, kind_eq_plain_iff.1 h]

lemma ensureCalls_managed (h : l.kind = .managed identity) (reference : String) :
    l.ensureCalls reference = if (Reference.split reference).2 = "" then []
      else [.ensureRepository identity (Reference.split reference).2] := by
  rw [ensureCalls, kind_eq_managed_iff.1 h]
  rfl

lemma call_of_mem_loginCalls (l : Location) {c : Call} (h : c ∈ l.loginCalls) :
    ∃ region, c = .issueLogin region := by
  rcases hkind : l.kind with _ | identity
  · rw [loginCalls_plain hkind] at h
    cases h
  · rw [loginCalls_managed hkind] at h
    exact ⟨_, List.mem_singleton.1 h⟩

lemma call_of_mem_ensureCalls (l : Location) {reference : String} {c : Call}
    (h : c ∈ l.ensureCalls reference) : ∃ identity name, c = .ensureRepository identity name := by
  rcases hkind : l.kind with _ | identity
  · rw [ensureCalls_plain hkind] at h
    cases h
  · rw [ensureCalls_managed hkind] at h
    split at h
    · cases h
    · exact ⟨_, _, List.mem_singleton.1 h⟩

lemma adds_refresh_managed (hkind : l.kind = .managed identity) :
    Adds (l.refresh w.transcribed).run fun xs r =>
      ∃ issued : Except Error Login, xs = [⟨.issueLogin identity.region, issued⟩] ∧
        r = issued.map fun login => (Credential.ofLogin login l.serverAddress).encode := by
  rw [refresh, hkind]
  have hask : Adds
      (w.transcribed.ask (.issueLogin identity.region) : Attempt (Kept σ) Login).run
      fun xs issued => xs = [⟨.issueLogin identity.region, issued⟩] := Adds.ask _
  have hencode (login : Login) : Adds
      (pure (Credential.ofLogin login l.serverAddress).encode : Attempt (Kept σ) _).run
      fun xs r => xs = [] ∧ r = .ok (Credential.ofLogin login l.serverAddress).encode :=
    Adds.pure _
  refine (Adds.attempt_bind hask hencode).mono ?_
  rintro zs r (⟨e, rfl, rfl⟩ | ⟨xs, login, ys, rfl, ⟨rfl, rfl⟩, rfl⟩)
  · exact ⟨.error e, rfl, rfl⟩
  · exact ⟨.ok login, rfl, rfl⟩

lemma adds_refresh : Adds (l.refresh w.transcribed).run fun xs r =>
    xs.map (·.call) = l.loginCalls ∧
      ((∃ e, r = .error e) ∧ l.credentialAfter xs = l.auth ∨ r = .ok (l.credentialAfter xs)) := by
  rcases hkind : l.kind with _ | identity
  · have hplain : l.refresh w.transcribed = pure l.auth := by
      rw [refresh, hkind]
    rw [hplain, loginCalls_plain hkind]
    refine (Adds.pure (Except.ok l.auth)).mono ?_
    rintro xs r ⟨rfl, rfl⟩
    exact ⟨rfl, .inr rfl⟩
  · rw [loginCalls_managed hkind]
    refine (adds_refresh_managed hkind).mono ?_
    rintro xs r ⟨e | login, rfl, rfl⟩
    · exact ⟨rfl, .inl ⟨⟨e, rfl⟩, rfl⟩⟩
    · exact ⟨rfl, .inr rfl⟩

lemma adds_credential : Adds (l.credential w.transcribed) fun xs credential =>
    xs.map (·.call) = l.loginCalls ∧ credential = l.credentialAfter xs := by
  refine (Adds.bind adds_refresh (Q := fun r xs credential =>
    xs = [] ∧ credential = r.toOption.getD l.auth) fun r => ?_).mono ?_
  · rcases r with e | credential
    · exact Adds.line (Adds.pure _)
    · exact Adds.pure _
  · rintro zs credential ⟨xs, r, ys, ⟨hcalls, hr⟩, ⟨rfl, rfl⟩, rfl⟩
    rw [List.append_nil]
    refine ⟨hcalls, ?_⟩
    rcases hr with ⟨⟨e, rfl⟩, hauth⟩ | rfl
    · exact hauth.symm
    · rfl

lemma adds_ensure_managed (hkind : l.kind = .managed identity) (reference : String) :
    Adds (l.ensure w.transcribed reference).run fun xs r =>
      if (Reference.split reference).2 = "" then xs = [] ∧ r = .ok ()
      else xs = [⟨.ensureRepository identity (Reference.split reference).2, r⟩] := by
  rw [ensure, hkind]
  by_cases hpath : (Reference.split reference).2 = ""
  · simp only [hpath, if_true]
    exact Adds.pure (Except.ok ())
  · simp only [hpath, String.isEmpty_iff, if_false]
    exact Adds.ask _

lemma adds_ensure (reference : String) : Adds (l.ensure w.transcribed reference).run fun xs _ =>
    xs.map (·.call) = l.ensureCalls reference := by
  rcases hkind : l.kind with _ | identity
  · have hplain : l.ensure w.transcribed reference = pure () := by
      rw [ensure, hkind]
    rw [hplain, ensureCalls_plain hkind]
    refine (Adds.pure (Except.ok ())).mono ?_
    rintro xs r ⟨rfl, -⟩
    rfl
  · rw [ensureCalls_managed hkind]
    refine (adds_ensure_managed hkind reference).mono ?_
    intro xs r h
    split at h
    · rw [h.1, if_pos ‹_›]
      rfl
    · rw [h, if_neg ‹_›]
      rfl

end Location

/-! ### Mappings -/

/-- What is exchanged for one mapping, part by part, and what the transfer came to. -/
structure Round where
  sourceLogins : List Exchange
  targetLogins : List Exchange
  ensured : List Exchange
  transferred : List Exchange
  outcome : Except Error Unit

def Round.exchanges (r : Round) : List Exchange :=
  r.sourceLogins ++ r.targetLogins ++ r.ensured ++ r.transferred

/-- The transfer of a round, with the credentials that the logins of this round give. -/
def Round.transfer (r : Round) (t : Task) (m : Mapping) : Transfer where
  source := t.source.under m.source
  sourceAuth := t.source.credentialAfter r.sourceLogins
  target := t.target.under m.target
  targetAuth := t.target.credentialAfter r.targetLogins
  tags := m.tags
  verbose := t.verbose

namespace Task

variable {t : Task} {m : Mapping}

/-- How the round of a mapping goes. -/
structure IsRound (t : Task) (m : Mapping) (r : Round) : Prop where
  sourceLogins : r.sourceLogins.map (·.call) = t.source.loginCalls
  targetLogins : r.targetLogins.map (·.call) = t.target.loginCalls
  ensured : r.ensured.map (·.call) = t.target.ensureCalls (t.target.under m.target)
  transferred : ∃ pulls lists tags pushes,
    r.transferred = pulls ++ lists ++ tags ++ pushes ∧
      (r.transfer t m).IsCourse pulls lists tags pushes r.outcome

lemma adds_report {α : Type} (outcome : Except Error α) :
    Adds (w.transcribed.report outcome) fun xs failed => xs = [] ∧ failed = !outcome.isOk := by
  rcases outcome with e | a
  · exact Adds.line (Adds.pure _)
  · exact Adds.pure _

lemma adds_runMapping : Adds (t.runMapping w.transcribed m) fun xs failed =>
    ∃ r, t.IsRound m r ∧ xs = r.exchanges ∧ failed = !r.outcome.isOk := by
  have htransfer (sourceAuth targetAuth : String) :=
    Adds.bind (Transfer.adds_run (w := w) (t := t.transfer m sourceAuth targetAuth))
      (adds_report (w := w))
  have hensure := t.target.adds_ensure (w := w) (t.refs m).2
  refine (Adds.line <| Adds.bind t.source.adds_credential fun sourceAuth =>
    Adds.bind t.target.adds_credential fun targetAuth =>
    Adds.bind hensure fun ensured => Adds.bind (adds_report ensured) fun _ =>
      htransfer sourceAuth targetAuth).mono ?_
  rintro _ failed ⟨sourceLogins, _, _, ⟨hsource, rfl⟩,
    ⟨targetLogins, _, _, ⟨htarget, rfl⟩, ⟨ensured, _, _, hensured, ⟨_, _, _, ⟨rfl, -⟩,
      ⟨transferred, outcome, _, hcourse, ⟨rfl, rfl⟩, rfl⟩, rfl⟩, rfl⟩, rfl⟩, rfl⟩
  refine ⟨⟨sourceLogins, targetLogins, ensured, transferred, outcome⟩,
    ⟨hsource, htarget, hensured, hcourse⟩, ?_, rfl⟩
  simp [Round.exchanges]

end Task

/-! ### The same with and without a record -/

section

variable {τ : Type} {π : τ → σ} {v : World τ}

lemma Location.credential_tracks (hv : Extends π v w) (l : Location) :
    Tracks π (l.credential v) (l.credential w) := by
  have hrefresh : Tracks π (l.refresh v).run (l.refresh w).run := by
    rw [refresh, refresh]
    rcases l.kind with _ | identity
    · exact Tracks.attempt_pure _
    · exact Tracks.attempt_bind (Tracks.ask hv _) fun _ => Tracks.attempt_pure _
  refine Tracks.bind hrefresh fun r => ?_
  rcases r with e | credential
  · exact Tracks.bind (Tracks.say hv _ _) fun _ => Tracks.pure _
  · exact Tracks.pure _

lemma Location.ensure_tracks (hv : Extends π v w) (l : Location) (reference : String) :
    Tracks π (l.ensure v reference).run (l.ensure w reference).run := by
  rw [ensure, ensure]
  rcases l.kind with _ | identity
  · exact Tracks.attempt_pure _
  · by_cases hpath : (Reference.split reference).2 = ""
    · simp only [hpath]
      exact Tracks.attempt_pure _
    · simp only [hpath, String.isEmpty_iff]
      exact Tracks.ask hv _

namespace Task

variable {t : Task} {m : Mapping}

lemma report_tracks {α : Type} (hv : Extends π v w) (outcome : Except Error α) :
    Tracks π (v.report outcome) (w.report outcome) := by
  rcases outcome with e | a
  · exact Tracks.bind (Tracks.say hv _ _) fun _ => Tracks.pure _
  · exact Tracks.pure _

lemma runMapping_tracks (hv : Extends π v w) (m : Mapping) :
    Tracks π (t.runMapping v m) (t.runMapping w m) := by
  refine Tracks.bind (Tracks.say hv _ _) fun _ => ?_
  refine Tracks.bind (t.source.credential_tracks hv) fun sourceAuth => ?_
  refine Tracks.bind (t.target.credential_tracks hv) fun targetAuth => ?_
  refine Tracks.bind (t.target.ensure_tracks hv _) fun ensured => ?_
  refine Tracks.bind (report_tracks hv ensured) fun _ => ?_
  exact Tracks.bind (Transfer.run_tracks hv) fun outcome => report_tracks hv outcome

lemma runMappings_tracks (hv : Extends π v w) (ms : List Mapping) :
    Tracks π (t.runMappings v ms) (t.runMappings w ms) := by
  induction ms with
  | nil => exact Tracks.pure _
  | cons m ms ih =>
    exact Tracks.bind (runMapping_tracks hv m) fun _ => Tracks.bind ih fun _ => Tracks.pure _

lemma run_tracks (hv : Extends π v w) : Tracks π (t.run v) (t.run w) :=
  Tracks.bind (Tracks.say hv _ _) fun _ => Tracks.bind (runMappings_tracks hv _) fun _ =>
    Tracks.bind (Tracks.say hv _ _) fun _ => Tracks.pure _

end Task

end

end RegistrySync
