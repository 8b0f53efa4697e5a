import RegistrySync.Proofs.Credential
import RegistrySync.Proofs.Daemon.Traffic
import RegistrySync.Proofs.Image.Parts
import RegistrySync.Proofs.Mapping
import RegistrySync.Proofs.Registry.Identity
import RegistrySync.Proofs.Round.Course

/-!
The uses of a managed endpoint.

The host of a managed endpoint begins with a dotted account, so a colon in it begins a port and
never a tag. It is therefore read as the host of every reference under the endpoint, whatever the
endpoint and the mapping have behind it, and the repository that is created, the one that is pushed
and the address that a credential is for all go by the same two parts.
-/

namespace RegistrySync

open Text Daemon

/-! ### Hosts with a path behind them -/

/-- What can stand behind a host: nothing, or a slash and a path. -/
def IsPathTail (cs : List Char) : Prop := ∀ c, cs.head? = some c → c = '/'

namespace IsPathTail

variable {cs rest : List Char}

lemma nil : IsPathTail [] := nofun

lemma slash (cs : List Char) : IsPathTail ('/' :: cs) := by
  intro c hc
  exact (Option.some.inj hc).symm

lemma cases (h : IsPathTail cs) : cs = [] ∨ ∃ rest, cs = '/' :: rest := by
  rcases cs with _ | ⟨c, rest⟩
  · exact .inl rfl
  · obtain rfl := h c rfl
    exact .inr ⟨rest, rfl⟩

lemma append (h : IsPathTail cs) (hrest : IsPathTail rest) : IsPathTail (cs ++ rest) := by
  rcases h.cases with rfl | ⟨cs, rfl⟩
  · exact hrest
  · exact slash _

lemma of_isPrefix (h : IsPathTail cs) (hrest : rest <+: cs) : IsPathTail rest := by
  rcases rest with _ | ⟨c, rest⟩
  · exact nil
  · obtain ⟨more, rfl⟩ := hrest
    intro d hd
    exact h d hd

lemma dropWhile (cs : List Char) : IsPathTail (cs.dropWhile (· != '/')) := by
  intro c hc
  simpa using head?_dropWhile hc

end IsPathTail

lemma Mapping.isPathTail_ofPaths (source target : String) (tags : List String) :
    IsPathTail (ofPaths source target tags).target.toList := by
  rcases (isPath_target source target tags).lead with hempty | hslash
  · rw [hempty]
    exact .nil
  · intro c hc
    exact Option.some.inj (hc.symm.trans hslash)

namespace Reference

/-- A text that is taken for a host, whatever path stands behind it. -/
structure IsEndpoint (host : List Char) : Prop where
  isHost : isHost host = true
  slash : '/' ∉ host
  digest : '@' ∉ host
  /-- A colon in it begins a port. -/
  port : ∀ before after, host = before ++ ':' :: after → Reference.isHost before = true

namespace IsEndpoint

variable {host tail rest : List Char} {s : String}

lemma ne_nil (h : IsEndpoint host) : host ≠ [] := by
  rintro rfl
  exact absurd h.isHost (by decide)

lemma splitTag_self (h : IsEndpoint host) : splitTag host = (host, none) := by
  rw [splitTag]
  rcases hc : cutLast ':' host with _ | ⟨before, after⟩
  · rfl
  · obtain ⟨hhost, -⟩ := cutLast_eq_some hc
    have hport : Reference.isHost before = true := h.port before after hhost
    have hslash : '/' ∉ before := fun hm => h.slash (hhost ▸ List.mem_append_left _ hm)
    simp [isTagColon, hport, hslash]

lemma splitTag_slash (host rest : List Char) :
    ∃ path, (splitTag (host ++ '/' :: rest)).1 = host ++ '/' :: path := by
  rcases splitTag_spec (host ++ '/' :: rest) with h | ⟨tag, h, -, -, hslash⟩
  · exact ⟨rest, by rw [h]⟩
  · rcases append_cons_cases (by decide) h with hname | ⟨more, -, rfl⟩
    · exact hname
    · -- the slash would stand behind the colon of the tag
      simp at hslash

lemma repo_parse (h : IsEndpoint host) (ht : IsPathTail tail) (hs : s.toList = host ++ tail) :
    (parse s).repo = String.ofList host := by
  have hhost : (splitHost (splitTag (withoutDigest s.toList)).1).1 = host := by
    rw [hs, withoutDigest_append h.digest]
    rcases ht.cases with rfl | ⟨rest, rfl⟩
    · have hnil : withoutDigest [] = [] := rfl
      rw [hnil, List.append_nil, h.splitTag_self, splitHost, cutFirst_eq_none.2 h.slash]
      simp [h.isHost]
    · have hcons : withoutDigest ('/' :: rest) = '/' :: withoutDigest rest := rfl
      obtain ⟨path, hpath⟩ := splitTag_slash host (withoutDigest rest)
      rw [hcons, hpath, splitHost_append h.isHost h.slash]
  rw [parse_eq, hhost]

end IsEndpoint

end Reference

/-! ### Pushes -/

namespace Daemon.Access

def pushNamed (a : Access) (name : String) (pairs : List (String × String)) (auth : String) :
    Request :=
  ⟨.post, (a.endpoint ("/images/" ++ name ++ "/push")).withPairs pairs,
    some (Credential.headerValue auth), none⟩

lemma push_eq (a : Access) (reference auth : String) (allTags : Bool) :
    a.push reference allTags auth = a.pushNamed (Reference.parse reference).name
      (if allTags then [] else [("tag", (Reference.parse reference).tagOrLatest)]) auth := by
  rw [push, pushNamed]

end Daemon.Access

/-! ### Managed hosts -/

namespace Location

open Reference

variable {l : Location} {identity : Identity}

def host (l : Location) : List Char := l.registry.toList.takeWhile (· != '/')

lemma exists_tail (l : Location) : ∃ tail, IsPathTail tail ∧ l.registry.toList = l.host ++ tail :=
  ⟨_, .dropWhile l.registry.toList, List.takeWhile_append_dropWhile.symm⟩

lemma isEndpoint_host (hkind : l.kind = .managed identity) (hcolon : ':' ∉ identity.account.toList)
    (hdigest : '@' ∉ l.host) : IsEndpoint l.host := by
  obtain ⟨domain, -, hhost⟩ :=
    (Identity.parse_eq_some_iff.1 (kind_eq_managed_iff.1 hkind)).host
  have hdot : ∀ before, '.' ∈ before → Reference.isHost before = true := by
    intro before h
    simp [Reference.isHost, h]
  have hslash : '/' ∉ l.host := by
    intro h
    have := List.all_eq_true.1 List.all_takeWhile _ h
    simp at this
  have hhost' : l.host = identity.account.toList ++ '.' ::
      (Identity.service ++ identity.region.toList ++ '.' :: domain) := by
    rw [host, hhost, Identity.host]
    simp
  refine ⟨hdot _ (by simp [hhost']), hslash, hdigest, fun before after h => hdot before ?_⟩
  -- the dot behind the account stands before the colon
  rw [hhost'] at h
  rcases append_cons_cases (by decide) h with ⟨more, rfl⟩ | ⟨more, haccount, -⟩
  · simp
  · simp [haccount] at hcolon

lemma serverAddress_eq (h : IsEndpoint l.host) : l.serverAddress = String.ofList l.host := by
  obtain ⟨tail, htail, hregistry⟩ := l.exists_tail
  have hrepo : (parse l.registry).repo = String.ofList l.host := h.repo_parse htail hregistry
  have hne : ¬ (String.ofList l.host).isEmpty := by
    simpa using h.ne_nil
  rw [serverAddress, Reference.split]
  dsimp only
  rw [hrepo, if_neg hne]

lemma repo_referenceAt (h : IsEndpoint l.host) {path : String} (hpath : IsPathTail path.toList) :
    (parse (Task.referenceAt l path)).repo = String.ofList l.host := by
  have hlast : trimEndBy (· == '/') l.host = l.host := by
    refine trimEndBy_eq_self fun c hc => ?_
    simpa using fun e : c = '/' => h.slash (e ▸ List.mem_of_getLast? hc)
  obtain ⟨tail, htail, hregistry⟩ := l.exists_tail
  have hrest : IsPathTail (trimEndBy (· == '/') tail ++ path.toList) :=
    (htail.of_isPrefix trimEndBy_prefix).append hpath
  refine h.repo_parse hrest ?_
  rw [Task.referenceAt, String.toList_append, String.toList_ofList, hregistry,
    trimEndBy_append hlast, List.append_assoc]

/-! ### Uses -/

/-- How an endpoint is used for a reference under it: one host, one repository path, one credential
for each login. -/
structure IsUsedFor (l : Location) (identity : Identity) (host path reference : String) : Prop where
  split : Reference.split reference = (host, path)
  serverAddress : l.serverAddress = host
  /-- A repository of this path is asked for, unless the path is empty; nothing else is. -/
  ensured : ∀ {σ : Type} (w : World σ),
    World.Adds (l.ensure w.transcribed reference).run fun xs r =>
      if path = "" then xs = [] ∧ r = .ok () else xs = [⟨.ensureRepository identity path, r⟩]
  /-- The repository of this host and path is pushed. -/
  pushed : ∀ {σ : Type} (t : Transport σ) (a : Access) (allTags : Bool) (auth : String)
    (verbose : Bool) (s : σ × List Deed),
    requests ((Client.push t.recorded a reference allTags auth verbose).run s).2.2 =
      requests s.2 ++ (a.pushNamed (if path = "" then host else host ++ "/" ++ path)
        (if allTags then [] else [("tag", (parse reference).tagOrLatest)]) auth).sent?.toList
  /-- A login for the region is asked for, and each that is issued becomes a credential for this
  host. -/
  refreshed : ∀ {σ : Type} (w : World σ),
    World.Adds (l.refresh w.transcribed).run fun xs r =>
      ∃ issued : Except Error Login, xs = [⟨.issueLogin identity.region, issued⟩] ∧
        (∀ e, issued = .error e → r = .error e) ∧
        ∀ login, issued = .ok login → ∃ encoded, r = .ok encoded ∧
          Credential.decode encoded = .ok ⟨login.username, login.password, host⟩

lemma isUsedFor (hkind : l.kind = .managed identity) (hhost : IsEndpoint l.host)
    {reference : String} (hrepo : (parse reference).repo = String.ofList l.host) :
    l.IsUsedFor identity (String.ofList l.host) (split reference).2 reference := by
  have haddress : l.serverAddress = String.ofList l.host := serverAddress_eq hhost
  have hsplit : split reference = ((parse reference).repo, (split reference).2) := rfl
  have hne : ¬ (String.ofList l.host).isEmpty := by simpa using hhost.ne_nil
  have hname : (parse reference).name = if (split reference).2 = "" then String.ofList l.host
      else String.ofList l.host ++ "/" ++ (split reference).2 := by
    rw [Reference.name, join, hrepo, if_neg hne]
    simp only [String.isEmpty_iff]
    rfl
  refine ⟨hrepo ▸ hsplit, haddress, fun w => adds_ensure_managed hkind reference, ?_, fun w => ?_⟩
  · intro σ transport a allTags auth verbose s
    rw [Client.requests_push, Access.push_eq, hname]
  · refine (adds_refresh_managed hkind).mono ?_
    rintro xs r ⟨issued, rfl, rfl⟩
    refine ⟨issued, rfl, fun e he => ?_, fun login hlogin => ?_⟩
    · rw [he]
      rfl
    · refine ⟨_, by rw [hlogin]; rfl, ?_⟩
      rw [Credential.decode_encode, haddress]
      rfl

/-- **All uses of a managed endpoint agree.** Unless the account of the endpoint has a colon or its
host has the mark of a digest, the host is what stands before the first slash, for each reference
that a mapping has under the endpoint, and the repository that is created, the repository that is
pushed and the address of a credential go by this host and the path of the reference. -/
theorem managed_uses_agree (l : Location) (identity : Identity) (hkind : l.kind = .managed identity)
    (haccount : ':' ∉ identity.account.toList) (hdigest : '@' ∉ l.host)
    (source target : String) (tags : List String) (t : Task) (ht : t.target = l) :
    let reference := (t.refs (.ofPaths source target tags)).2
    l.IsUsedFor identity (String.ofList l.host) (split reference).2 reference := by
  intro reference
  have hhost : IsEndpoint l.host := isEndpoint_host hkind haccount hdigest
  refine isUsedFor hkind hhost ?_
  subst ht
  exact repo_referenceAt hhost (Mapping.isPathTail_ofPaths source target tags)

/-- An endpoint with a port, a path and slashes at its end, and a mapping with an empty segment, a
tag and a digest. -/
theorem managed_uses_agree_port :
    let l : Location := ⟨"123456789012.dkr.ecr.eu-west-1.amazonaws.com:443/mirror//", ""⟩
    let identity : Identity := ⟨"123456789012", "eu-west-1"⟩
    let t : Task := ⟨"", ⟨"docker.io", ""⟩, l, [], 0, false⟩
    let reference := (t.refs (.ofPaths "library/web" " apps//web:1@sha256:0/" [])).2
    let a : Access := ⟨⟨false, "", "", "127.0.0.1", some 2375, [""], none, none⟩, "1.24", 5000⟩
    let silent : Transport Unit :=
      ⟨fun _ s => (.answered ⟨⟨200⟩, [], true⟩, s), fun _ s => s, fun _ s => s⟩
    l.kind = .managed identity ∧ ':' ∉ identity.account.toList ∧ '@' ∉ l.host ∧
      l.IsUsedFor identity "123456789012.dkr.ecr.eu-west-1.amazonaws.com:443" "mirror/apps//web"
        reference ∧
      (requests ((Client.push silent.recorded a reference false "" false).run ((), [])).2.2).map
          (·.url.text) =
        ["http://127.0.0.1:2375/v1.24/images/" ++
          "123456789012.dkr.ecr.eu-west-1.amazonaws.com:443/mirror/apps//web/push?tag=1"] := by
  intro l identity t reference a silent
  have hkind : l.kind = .managed identity := by decide +kernel
  have haccount : ':' ∉ identity.account.toList := by decide +kernel
  have hdigest : '@' ∉ l.host := by decide +kernel
  have hused := managed_uses_agree l identity hkind haccount hdigest "library/web"
    " apps//web:1@sha256:0/" [] t rfl
  have hhost : String.ofList l.host = "123456789012.dkr.ecr.eu-west-1.amazonaws.com:443" := by
    decide +kernel
  have hpath : (split reference).2 = "mirror/apps//web" := by decide +kernel
  refine ⟨hkind, haccount, hdigest, ?_, by decide +kernel⟩
  rw [← hhost, ← hpath]
  exact hused

end Location

end RegistrySync
