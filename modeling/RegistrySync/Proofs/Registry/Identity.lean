import RegistrySync.Proofs.Text.Cut
import RegistrySync.Registry.Location

/-!
Which endpoints are managed.

The reader cuts the host out of an endpoint, the four leading parts out of the host, and a port off
what is left. It takes exactly the endpoints that are written as account, service, region and domain
with nothing, a port or a path behind them: a further dot, a longer domain or an empty part makes an
endpoint a plain one.
-/

namespace RegistrySync

open Text

namespace Identity

variable {endpoint : String} {i : Identity} {cs : List Char}

/-- One part of a host name. -/
structure IsLabel (s : String) : Prop where
  ne : s ≠ ""
  dot : '.' ∉ s.toList
  slash : '/' ∉ s.toList

/-- What can stand behind a domain: nothing, a port, or a path. -/
def IsHostEnd (rest : List Char) : Prop := ∀ c, rest.head? = some c → c = ':' ∨ c = '/'

/-- How the endpoints of a managed registry are written. -/
structure IsWritten (i : Identity) (endpoint : String) : Prop where
  account : IsLabel i.account
  region : IsLabel i.region
  text : ∃ domain rest, (domain = "amazonaws.com" ∨ domain = "amazonaws.com.cn") ∧
    IsHostEnd rest.toList ∧
    endpoint = i.account ++ ".dkr.ecr." ++ i.region ++ "." ++ domain ++ rest

/-- The text of an endpoint before its first slash is the host of a managed registry. -/
structure IsHosted (i : Identity) (endpoint : String) : Prop where
  account : i.account ≠ "" ∧ '.' ∉ i.account.toList
  region : i.region ≠ "" ∧ '.' ∉ i.region.toList
  host : ∃ domain, isDomain domain = true ∧ endpoint.toList.takeWhile (· != '/') = i.host domain

/-! ### Hosts -/

lemma parse_eq_some_iff : parse endpoint = some i ↔ i.IsHosted endpoint := by
  constructor
  · intro h
    obtain ⟨⟨account, rest⟩, haccount, h⟩ := Option.bind_eq_some_iff.1 h
    obtain ⟨rest', hservice, h⟩ := Option.bind_eq_some_iff.1 h
    obtain ⟨⟨region, domain⟩, hregion, h⟩ := Option.bind_eq_some_iff.1 h
    obtain ⟨_, hguard, h⟩ := Option.bind_eq_some_iff.1 h
    obtain rfl := Option.some.inj h
    obtain ⟨hhost, haccount⟩ := cutFirst_eq_some haccount
    obtain ⟨hrest, hregion⟩ := cutFirst_eq_some hregion
    rw [guard] at hguard
    split at hguard
    · rename_i hall
      simp only [Bool.and_eq_true, Bool.not_eq_true', List.isEmpty_eq_false_iff] at hall
      obtain ⟨⟨hne, hne'⟩, hdomain⟩ := hall
      refine ⟨⟨by simpa using hne, by simpa using haccount⟩,
        ⟨by simpa using hne', by simpa using hregion⟩, domain, hdomain, ?_⟩
      rw [hhost, stripLead_eq_some hservice, hrest]
      simp [Identity.host]
    · cases hguard
  · rintro ⟨⟨hne, haccount⟩, ⟨hne', hregion⟩, domain, hdomain, hhost⟩
    have hhost' : endpoint.toList.takeWhile (· != '/') = i.account.toList ++ '.' ::
        (service ++ (i.region.toList ++ '.' :: domain)) := by
      rw [hhost, Identity.host]
      simp
    rw [parse, hhost', cutFirst_append haccount]
    simp [stripLead_append, cutFirst_append hregion, hdomain, hne, hne', guard]

lemma isDomain_iff : isDomain cs = true ↔
    ∃ domain ∈ domains, ∃ port, (∀ c, port.head? = some c → c = ':') ∧ cs = domain ++ port := by
  constructor
  · intro h
    refine ⟨cs.takeWhile (· != ':'), List.contains_iff_mem.1 h, cs.dropWhile (· != ':'), ?_, ?_⟩
    · intro c hc
      simpa using head?_dropWhile hc
    · exact List.takeWhile_append_dropWhile.symm
  · rintro ⟨domain, hdomain, port, hport, rfl⟩
    have hplain : ∀ c ∈ domain, (c != ':') = true := by
      have hall : domains.all (fun domain => domain.all (· != ':')) = true := by decide
      exact List.all_eq_true.1 (List.all_eq_true.1 hall domain hdomain)
    have hstop : port.takeWhile (· != ':') = [] := by
      rcases port with _ | ⟨c, port⟩
      · rfl
      · obtain rfl := hport c rfl
        rfl
    rw [isDomain, List.takeWhile_append_of_pos hplain, hstop, List.append_nil]
    exact List.contains_iff_mem.2 hdomain

lemma slash_mem_host :
    '/' ∈ i.host cs ↔ '/' ∈ i.account.toList ∨ '/' ∈ i.region.toList ∨ '/' ∈ cs := by
  have hservice : '/' ∉ service := by decide
  simp [host, hservice]

lemma toList_written (i : Identity) (domain rest : String) :
    (i.account ++ ".dkr.ecr." ++ i.region ++ "." ++ domain ++ rest).toList =
      i.host domain.toList ++ rest.toList := by
  have hservice : ".dkr.ecr.".toList = '.' :: service := by decide
  have hdot : ".".toList = ['.'] := by decide
  simp only [String.toList_append, hservice, hdot, host, List.append_assoc, List.cons_append,
    List.nil_append]

lemma IsWritten.isHosted (h : i.IsWritten endpoint) : i.IsHosted endpoint := by
  obtain ⟨haccount, hregion, domain, rest, hdomain, hend, rfl⟩ := h
  have hmem : domain.toList ∈ domains := by
    rcases hdomain with rfl | rfl <;> decide
  have hslash : '/' ∉ i.host domain.toList := by
    have hdomain : '/' ∉ domain.toList := by
      rcases hdomain with rfl | rfl <;> decide
    rw [slash_mem_host]
    exact not_or.2 ⟨haccount.slash, not_or.2 ⟨hregion.slash, hdomain⟩⟩
  have hport : ∀ c, (rest.toList.takeWhile (· != '/')).head? = some c → c = ':' := by
    intro c hc
    have hslash : (c != '/') = true :=
      List.mem_takeWhile_imp (p := (· != '/')) (List.mem_of_head? hc)
    have hhead : rest.toList.head? = some c := by
      rw [← List.takeWhile_append_dropWhile (p := (· != '/')) (l := rest.toList),
        List.head?_append, hc]
      rfl
    exact (hend c hhead).resolve_right (bne_iff_ne.1 hslash)
  refine ⟨⟨haccount.ne, haccount.dot⟩, ⟨hregion.ne, hregion.dot⟩,
    domain.toList ++ rest.toList.takeWhile (· != '/'),
    isDomain_iff.2 ⟨domain.toList, hmem, _, hport, rfl⟩, ?_⟩
  have hplain : ∀ c ∈ i.host domain.toList, (c != '/') = true := fun c hc =>
    bne_iff_ne.2 fun e => hslash (e ▸ hc)
  rw [toList_written, List.takeWhile_append_of_pos hplain]
  simp [Identity.host]

lemma IsHosted.isWritten (h : i.IsHosted endpoint) : i.IsWritten endpoint := by
  obtain ⟨⟨hne, haccount⟩, ⟨hne', hregion⟩, _, hdomain, hhost⟩ := h
  obtain ⟨domain, hmem, port, hport, rfl⟩ := isDomain_iff.1 hdomain
  have hslash : '/' ∉ i.host (domain ++ port) := by
    intro h
    have := List.mem_takeWhile_imp (hhost ▸ h)
    simp at this
  rw [slash_mem_host, not_or, not_or] at hslash
  have hnames : ∀ domain ∈ domains, String.ofList domain = "amazonaws.com" ∨
      String.ofList domain = "amazonaws.com.cn" := by decide
  refine ⟨⟨hne, haccount, hslash.1⟩, ⟨hne', hregion, hslash.2.1⟩, String.ofList domain,
    String.ofList (port ++ endpoint.toList.dropWhile (· != '/')), hnames domain hmem, ?_, ?_⟩
  · intro c hc
    rw [String.toList_ofList] at hc
    -- without a port the rest begins with the slash that ended the host
    rcases port with _ | ⟨d, port⟩
    · refine .inr ?_
      simpa using head?_dropWhile hc
    · obtain rfl := hport d rfl
      exact .inl (Option.some.inj hc).symm
  · have hcut : endpoint.toList =
        i.host (domain ++ port) ++ endpoint.toList.dropWhile (· != '/') := by
      rw [← hhost, List.takeWhile_append_dropWhile]
    refine String.toList_injective ?_
    rw [toList_written, String.toList_ofList, String.toList_ofList, ← List.append_assoc]
    refine hcut.trans ?_
    simp [Identity.host]

/-- **The grammar of managed endpoints.** An account and a region are read off an endpoint exactly
if it is written with them: both are parts without a dot or a slash, the domain is one of the two,
and behind it stands nothing, a port or a path. No endpoint is written with two accounts or regions,
and the endpoints that are treated as managed are the ones that are written so. -/
theorem parse_reads_grammar (endpoint : String) :
    (∀ i : Identity, parse endpoint = some i ↔ i.IsWritten endpoint) ∧
    (∀ i j : Identity, i.IsWritten endpoint → j.IsWritten endpoint → i = j) ∧
    ∀ auth : String,
      (∀ i, (⟨endpoint, auth⟩ : Location).kind = .managed i ↔ i.IsWritten endpoint) ∧
      ((⟨endpoint, auth⟩ : Location).kind = .plain ↔ ¬ ∃ i : Identity, i.IsWritten endpoint) := by
  have hread : ∀ i : Identity, parse endpoint = some i ↔ i.IsWritten endpoint :=
    fun i => parse_eq_some_iff.trans ⟨IsHosted.isWritten, IsWritten.isHosted⟩
  refine ⟨hread, fun i j hi hj => ?_, fun auth => ⟨fun i => ?_, ?_⟩⟩
  · rw [← hread] at hi hj
    exact Option.some.inj (hi.symm.trans hj)
  · exact Location.kind_eq_managed_iff.trans (hread i)
  · simp only [← hread, Location.kind_eq_plain_iff, ← Option.ne_none_iff_exists', not_not]

/-- The longer domain, with a port and a path behind it; and an endpoint whose domain goes on. -/
theorem parse_reads_grammar_port :
    let endpoint := "123456789012.dkr.ecr.cn-north-1.amazonaws.com.cn:443/app"
    let i : Identity := ⟨"123456789012", "cn-north-1"⟩
    i.IsWritten endpoint ∧ parse endpoint = some i ∧
      (∀ j : Identity, j.IsWritten endpoint → j = i) ∧
      ¬ ∃ j : Identity, j.IsWritten "1.dkr.ecr.us-east-1.amazonaws.com.evil.io" := by
  intro endpoint i
  have hwritten : i.IsWritten endpoint :=
    ⟨⟨by decide, by decide, by decide⟩, ⟨by decide, by decide, by decide⟩, "amazonaws.com.cn",
      ":443/app", .inr rfl, fun c hc => .inl (Option.some.inj hc).symm, by decide⟩
  obtain ⟨hread, hunique, -⟩ := parse_reads_grammar endpoint
  obtain ⟨-, -, hkind⟩ := parse_reads_grammar "1.dkr.ecr.us-east-1.amazonaws.com.evil.io"
  refine ⟨hwritten, (hread i).2 hwritten, fun j hj => hunique j i hj hwritten, ?_⟩
  exact (hkind "").2.1 (by decide)

end Identity

end RegistrySync
