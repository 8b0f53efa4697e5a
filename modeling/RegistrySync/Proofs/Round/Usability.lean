import RegistrySync.Proofs.Credential
import RegistrySync.Proofs.Daemon.Traffic
import RegistrySync.Proofs.Round.Secrecy
import RegistrySync.Proofs.Settings.Violation

/-!
Settings without a violation never lead to a credential that can not be sent.

A configured credential is looked at before it is trimmed, and is used trimmed; that makes no
difference for reading it. A credential made from a login can be read whatever the login says. What
can be read is written in base64, and base64 can stand in a header.
-/

namespace RegistrySync

open World

variable {σ : Type} {w : World σ}

/-! ### Headers -/

lemma Credential.range_of_isAlphanum {c : Char} (h : c.isAlphanum = true) :
    0x20 ≤ c.toNat ∧ c.toNat < 0x7F := by
  have hrange {l u : Char} (hl : l.toNat ≤ c.toNat) (hu : c.toNat ≤ u.toNat) (h : 0x20 ≤ l.toNat)
      (h' : u.toNat < 0x7F) : 0x20 ≤ c.toNat ∧ c.toNat < 0x7F :=
    ⟨Nat.le_trans h hl, Nat.lt_of_le_of_lt hu h'⟩
  have hcases : ((c.isUpper || c.isLower) || c.isDigit) = true := h
  rw [Bool.or_eq_true, Bool.or_eq_true] at hcases
  rcases hcases with (hupper | hlower) | hdigit
  · obtain ⟨hl, hu⟩ := of_decide_eq_true hupper
    exact hrange hl hu (by decide) (by decide)
  · obtain ⟨hl, hu⟩ := Bool.and_eq_true_iff.1 hlower
    exact hrange (of_decide_eq_true hl) (of_decide_eq_true hu) (by decide) (by decide)
  · obtain ⟨hl, hu⟩ := Bool.and_eq_true_iff.1 hdigit
    exact hrange (of_decide_eq_true hl) (of_decide_eq_true hu) (by decide) (by decide)

lemma Credential.isHeaderChar_of_isEncodedChar {c : Char} (h : isEncodedChar c = true) :
    Daemon.isHeaderChar c = true := by
  have hrange : 0x20 ≤ c.toNat ∧ c.toNat < 0x7F := by
    simp only [isEncodedChar, Bool.or_eq_true, decide_eq_true_eq, List.mem_cons, List.not_mem_nil,
      or_false] at h
    rcases h with h | rfl | rfl | rfl | rfl | rfl
    · exact range_of_isAlphanum h
    all_goals decide
  simp only [Daemon.isHeaderChar, Bool.or_eq_true, Bool.and_eq_true, decide_eq_true_eq,
    bne_iff_ne]
  exact .inr ⟨hrange.1, Nat.ne_of_lt hrange.2⟩

lemma Credential.IsUsable.flaw_eq {auth : String} (h : IsUsable auth) (q : Daemon.Request) :
    ({ q with auth := some (headerValue auth) } : Daemon.Request).flaw =
      ({ q with auth := none } : Daemon.Request).flaw := by
  have hall : (headerValue auth).toList.all Daemon.isHeaderChar = true :=
    List.all_eq_true.2 fun ch hch => isHeaderChar_of_isEncodedChar (h.sent ch hch)
  rw [Daemon.Request.flaw, Daemon.Request.flaw]
  simp only [Option.getD_some, Option.getD_none, hall, if_true]
  rfl

/-! ### Where credentials come from -/

lemma Settings.Location.IsValid.isUsable {l : Settings.Location} (h : l.IsValid) :
    Credential.IsUsable l.location.auth := by
  refine Credential.isUsable_of_trim (Text.trim_trim l.auth) ?_
  rcases h.auth with hblank | ⟨c, hc⟩
  · left
    rw [Settings.Location.location, Text.trim_of_onlyBlanks hblank]
    rfl
  · right
    exact ⟨c, (Credential.decode_trim l.auth).trans hc⟩

lemma Location.isUsable_credentialAfter {l : Location} (h : Credential.IsUsable l.auth)
    (xs : List Exchange) : Credential.IsUsable (l.credentialAfter xs) := by
  unfold credentialAfter
  split
  · exact Credential.isUsable_encode _
  · exact h

namespace Task

variable {t : Task}

lemma adds_runMappings (ms : List Mapping) : Adds (t.runMappings w.transcribed ms) fun xs _ =>
    ∀ x ∈ xs, ∃ m r, t.IsRound m r ∧ x ∈ r.exchanges := by
  induction ms with
  | nil =>
    refine (Adds.pure 0).mono ?_
    rintro xs _ ⟨rfl, -⟩
    exact nofun
  | cons m ms ih =>
    refine (Adds.bind adds_runMapping fun failed =>
      Adds.bind ih fun more => Adds.pure ((if failed then 1 else 0) + more)).mono ?_
    rintro _ _ ⟨_, _, _, ⟨r, hr, rfl, -⟩, ⟨ys, _, _, hys, ⟨rfl, -⟩, rfl⟩, rfl⟩ x hx
    rw [List.append_nil, List.mem_append] at hx
    rcases hx with hx | hx
    · exact ⟨m, r, hr, hx⟩
    · exact hys x hx

lemma exists_round (s : σ) {x : Exchange} (hx : x ∈ (t.run w.transcribed (s, [])).2.2) :
    ∃ m r, t.IsRound m r ∧ x ∈ r.exchanges := by
  have hadds : Adds (t.run w.transcribed) fun xs _ =>
      ∀ x ∈ xs, ∃ m r, t.IsRound m r ∧ x ∈ r.exchanges := by
    refine (Adds.line <| Adds.bind (adds_runMappings t.mappings) fun failed =>
      Adds.line (Adds.pure failed)).mono ?_
    rintro _ _ ⟨xs, _, _, hxs, ⟨rfl, -⟩, rfl⟩
    rwa [List.append_nil]
  obtain ⟨xs, heq, hxs⟩ := hadds s []
  rw [heq] at hx
  exact hxs x hx

lemma isUsable_of_mem (hsource : Credential.IsUsable t.source.auth)
    (htarget : Credential.IsUsable t.target.auth) (s : σ) {x : Exchange}
    (hx : x ∈ (t.run w.transcribed (s, [])).2.2) {auth : String}
    (hauth : x.call.pullAuth? = some auth ∨ x.call.pushAuth? = some auth) :
    Credential.IsUsable auth := by
  obtain ⟨m, r, hr, hx⟩ := exists_round s hx
  obtain ⟨hpull, hpush⟩ := hr.isFilledWith
  rcases hauth with hauth | hauth
  · rcases hpull x hx with hnone | hsome
    · cases hnone.symm.trans hauth
    · cases hsome.symm.trans hauth
      exact Location.isUsable_credentialAfter hsource _
  · rcases hpush x hx with hnone | hsome
    · cases hnone.symm.trans hauth
    · cases hsome.symm.trans hauth
      exact Location.isUsable_credentialAfter htarget _

end Task

lemma Call.auth_of_request? {a : Daemon.Access} {c : Call} {q : Daemon.Request} {auth : String}
    (hauth : c.pullAuth? = some auth ∨ c.pushAuth? = some auth) (hq : c.request? a = some q) :
    q.auth = some (Credential.headerValue auth) := by
  cases c with
  | pull =>
    cases hauth.resolve_right nofun
    cases hq
    rfl
  | push =>
    cases hauth.resolve_left nofun
    cases hq
    rfl
  | _ => exact absurd hauth (by simp [Call.pullAuth?, Call.pushAuth?])

namespace Settings

/-- **Credentials can always be used.** Take any task of settings without a violation, and any
world. Each credential with which the task pulls or pushes is empty or can be read, and what is sent
for it is a text of base64 that is not empty. Nothing that keeps the request from being sent is due
to the credential. -/
theorem credentials_are_usable {settings : Settings} (h : settings.violation = none)
    {t : RegistrySync.Task} (ht : t ∈ settings.toTasks) (w : World σ) (s : σ) {x : Exchange}
    (hx : x ∈ (t.run w.transcribed (s, [])).2.2) {auth : String}
    (hauth : x.call.pullAuth? = some auth ∨ x.call.pushAuth? = some auth) :
    Credential.IsUsable auth ∧ ∀ a q, x.call.request? a = some q →
      q.auth = some (Credential.headerValue auth) ∧
        q.flaw = ({ q with auth := none } : Daemon.Request).flaw := by
  obtain ⟨task, htask, rfl⟩ := List.mem_map.1 ht
  have hvalid := (violation_eq_none.1 h).each task htask
  have husable : Credential.IsUsable auth :=
    Task.isUsable_of_mem hvalid.source.isUsable hvalid.target.isUsable s hx hauth
  refine ⟨husable, fun a q hq => ?_⟩
  have hheader := Call.auth_of_request? hauth hq
  have hflaw := husable.flaw_eq q
  rw [← hheader] at hflaw
  exact ⟨hheader, hflaw⟩

/-- Blanks around the configured credentials, and a registry that issues only its second login. -/
theorem credentials_are_usable_fallback :
    let settings : Settings := ⟨.default, [⟨"a", 0, false, ⟨"localhost:5000", " e30=\u3000"⟩,
      ⟨"1.dkr.ecr.eu-west-1.amazonaws.com", "e30=\n"⟩, [⟨"a", "", []⟩, ⟨"b", "", []⟩]⟩]⟩
    let answer (c : Call) (n : Nat) : Except Error c.Answer × Nat :=
      (match c with
        | .issueLogin _ => if n = 0 then .error (.managedRegistry "")
          else .ok ⟨"AWS", "ü"⟩
        | .list _ => .ok []
        | .push _ _ _ _ => .ok ()
        | .ping _ _ => .ok ()
        | .pull _ _ _ _ => .ok ()
        | .tag _ _ => .ok ()
        | .ensureRepository _ _ => .ok (), n + 1)
    let w : World Nat := ⟨answer, fun _ n => n⟩
    let login := Credential.ofLogin ⟨"AWS", "ü"⟩ "1.dkr.ecr.eu-west-1.amazonaws.com"
    settings.violation = none ∧ ∀ t ∈ settings.toTasks,
      let exchanges := (t.run w.transcribed (0, [])).2.2
      exchanges.filterMap (·.call.pullAuth?) = ["e30=", "e30="] ∧
      exchanges.filterMap (·.call.pushAuth?) = ["e30=", login.encode] ∧
      ∀ x ∈ exchanges, ∀ auth, x.call.pullAuth? = some auth ∨ x.call.pushAuth? = some auth →
        Credential.IsUsable auth := by
  intro settings answer w login
  have hvalid : settings.violation = none := by decide +kernel
  have hauths : ∀ t ∈ settings.toTasks,
      (t.run w.transcribed (0, [])).2.2.filterMap (·.call.pullAuth?) = ["e30=", "e30="] ∧
      (t.run w.transcribed (0, [])).2.2.filterMap (·.call.pushAuth?) =
        ["e30=", login.encode] := by decide +kernel
  exact ⟨hvalid, fun t ht => ⟨(hauths t ht).1, (hauths t ht).2, fun x hx auth hauth =>
    (credentials_are_usable hvalid ht w 0 hx hauth).1⟩⟩

end Settings

end RegistrySync
