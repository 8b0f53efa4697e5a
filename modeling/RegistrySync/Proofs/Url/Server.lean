import RegistrySync.Proofs.Except
import RegistrySync.Proofs.Url.Path

/-!
Addresses of servers.

In the host of an address that was read, nothing could end it. So the address of a server can be
gone on with: what is written behind it is read behind the same host and port.
-/

namespace RegistrySync.Url

open Text

variable {c : Char} {b n : Nat} {cs rest : List Char} {host : String} {port : Option Nat}

/-! ### Numbers -/

lemma inRadix_concat {d : Nat} (hcs : inRadix b cs = some n) (hc : hexValue? c = some d)
    (hd : d < b) : inRadix b (cs ++ [c]) = some (n * b + d) := by
  have hguard : (guard (d < b) : Option Unit) = some () := if_pos hd
  rw [inRadix] at hcs
  rw [inRadix, List.foldlM_append, hcs]
  change ((hexValue? c).bind fun d =>
    Option.bind (guard (d < b)) fun _ => some (n * b + d)).bind some = _
  rw [hc, Option.bind_some, hguard]
  rfl

lemma inRadix_toDigits (hb : 1 < b) (hle : b ≤ 16) (n : Nat) :
    inRadix b (Nat.toDigits b n) = some n := by
  have hdigit : ∀ d < 16, hexValue? (Nat.digitChar d) = some d := by decide
  induction n using Nat.strongRecOn with
  | ind n ih =>
    by_cases hn : n < b
    · have hnil : inRadix b [] = some 0 := rfl
      have hlast := inRadix_concat hnil (hdigit n (Nat.lt_of_lt_of_le hn hle)) hn
      rw [Nat.toDigits_of_lt_base hn]
      rwa [Nat.zero_mul, Nat.zero_add] at hlast
    · have hpos : 0 < n := by omega
      have hmod := Nat.mod_lt n (Nat.lt_of_succ_lt hb)
      rw [Nat.toDigits_of_base_le hb (Nat.le_of_not_lt hn),
        inRadix_concat (ih (n / b) (Nat.div_lt_self hpos hb))
          (hdigit _ (Nat.lt_of_lt_of_le hmod hle)) hmod, Nat.div_add_mod']

lemma hex_of_inRadix (h : inRadix b cs = some n) : ∀ c ∈ cs, (hexValue? c).isSome := by
  induction cs using List.reverseRecOn generalizing n with
  | nil => nofun
  | append_singleton cs c ih =>
    rw [inRadix, List.foldlM_append] at h
    obtain ⟨m, hm, hlast⟩ := Option.bind_eq_some_iff.1 h
    intro x hx
    rcases List.mem_append.1 hx with hx | hx
    · exact ih hm x hx
    · obtain rfl := List.mem_singleton.1 hx
      rcases hvalue : hexValue? x with _ | d
      · rw [List.foldlM_cons, hvalue] at hlast
        exact nomatch hlast
      · rfl

lemma hex_toDigits (hb : 1 < b) (hle : b ≤ 16) (n : Nat) :
    ∀ c ∈ Nat.toDigits b n, (hexValue? c).isSome :=
  hex_of_inRadix (inRadix_toDigits hb hle n)

lemma hex_toString (n : Nat) : ∀ c ∈ (toString n).toList, (hexValue? c).isSome := by
  have hdigits : (toString n).toList = Nat.toDigits 10 n := Nat.toList_repr
  rw [hdigits]
  exact hex_toDigits (by decide) (by decide) n

/-! ### Hosts -/

/-- The text of a host: a name or an address in brackets. -/
inductive IsHostText : List Char → Prop
  | name {cs : List Char} (hne : cs ≠ []) (h : ∀ c ∈ cs, isForbidden c = false) : IsHostText cs
  | bracketed {inner : List Char} (h : ∀ c ∈ inner, (hexValue? c).isSome ∨ c = ':') :
      IsHostText ('[' :: (inner ++ [']']))

lemma isForbidden_hex (h : (hexValue? c).isSome) : isForbidden c = false := by
  have hall : ∀ n < 103, (hexValue? (Char.ofNat n)).isSome →
      isForbidden (Char.ofNat n) = false := by decide +kernel
  have hlt := lt_of_hexValue? h
  rw [← Char.ofNat_toNat c] at h ⊢
  exact hall c.toNat hlt h

lemma hexPieces_chars (ns : List Nat) :
    ∀ c ∈ (hexPieces ns).toList, (hexValue? c).isSome ∨ c = ':' := by
  have hlists : ns.map (fun n => String.ofList (Nat.toDigits 16 n)) =
      (ns.map (Nat.toDigits 16)).map String.ofList := by rw [List.map_map]; rfl
  intro c hc
  rw [hexPieces, hlists, toList_joinWith] at hc
  rcases mem_intercalate hc with hcolon | ⟨piece, hpiece, hc⟩
  · exact .inr (List.mem_singleton.1 hcolon)
  · obtain ⟨n, -, rfl⟩ := List.mem_map.1 hpiece
    exact .inl (hex_toDigits (by decide) (by decide) n c hc)

lemma isHostText_ipv6Text (ns : List Nat) : IsHostText (ipv6Text ns).toList := by
  rw [ipv6Text]
  rcases longestZeros 0 ns with ⟨place, size⟩
  dsimp only
  split
  · rw [String.toList_append, String.toList_append]
    exact .bracketed (hexPieces_chars ns)
  · have hinner : ("[" ++ hexPieces (ns.take place) ++ "::" ++ hexPieces (ns.drop (place + size)) ++
        "]").toList = '[' :: (((hexPieces (ns.take place)).toList ++ [':', ':'] ++
          (hexPieces (ns.drop (place + size))).toList) ++ [']']) := by
      simp only [String.toList_append]
      rfl
    rw [hinner]
    refine .bracketed fun c hc => ?_
    simp only [List.mem_append] at hc
    rcases hc with (hc | hc) | hc
    · exact hexPieces_chars _ c hc
    · exact .inr (by simpa using hc)
    · exact hexPieces_chars _ c hc

lemma isHostText_ipv4Text (value : Nat) : IsHostText (ipv4Text value).toList := by
  have hnumber (n : Nat) : ∀ c ∈ (toString n).toList, isForbidden c = false :=
    fun c hc => isForbidden_hex (hex_toString n c hc)
  have hdot (c : Char) (hc : c ∈ ".".toList) : isForbidden c = false := by
    obtain rfl := List.mem_singleton.1 hc
    decide
  rw [ipv4Text]
  refine .name (by simp) fun c hc => ?_
  simp only [String.toList_append, List.mem_append] at hc
  rcases hc with (((((hc | hc) | hc) | hc) | hc) | hc) | hc
  · exact hnumber _ c hc
  · exact hdot c hc
  · exact hnumber _ c hc
  · exact hdot c hc
  · exact hnumber _ c hc
  · exact hdot c hc
  · exact hnumber _ c hc

lemma isHostText_ipv4 {name : List Char} (h : ipv4 name = .ok host) : IsHostText host.toList := by
  unfold ipv4 at h
  dsimp only at h
  split at h
  · cases h
  · split at h
    · cases h
      exact isHostText_ipv4Text _
    · cases h

lemma readName_chars {name : List Char} (h : readName cs = .ok name) :
    ∀ c ∈ name, isForbidden c = false := by
  rw [readName] at h
  split at h
  · cases h
  · obtain ⟨ascii, -, h⟩ := bind_eq_ok.1 h
    split at h
    · cases h
    · rename_i hany
      cases h
      simpa using hany

lemma isHostText_readHost (h : readHost cs = .ok host) : IsHostText host.toList := by
  unfold readHost at h
  split at h
  · cases h
  · split at h
    · unfold ipv6 at h
      split at h
      · cases h
        exact isHostText_ipv6Text _
      · cases h
    · cases h
  · obtain ⟨name, hname, h⟩ := bind_eq_ok.1 h
    by_cases hempty : name.isEmpty = true
    · rw [if_pos hempty] at h
      cases h
    · rw [if_neg hempty] at h
      by_cases hnumber : endsInNumber name = true
      · rw [if_pos hnumber] at h
        exact isHostText_ipv4 h
      · rw [if_neg hnumber] at h
        cases h
        rw [String.toList_ofList]
        exact .name (fun hnil => hempty (List.isEmpty_iff.2 hnil)) (readName_chars hname)

/-! ### Authorities -/

/-- A character that neither ends an authority nor sets a user apart, and is not dropped. -/
def isPlain (c : Char) : Bool := c ∉ ['/', '\\', '?', '#', '@', '\t', '\n', '\r']

lemma isPlain_of_isForbidden (h : isForbidden c = false) : isPlain c = true := by
  refine decide_eq_true fun hmem => ?_
  have hall : ['/', '\\', '?', '#', '@', '\t', '\n', '\r'].all isForbidden = true := by decide
  rw [List.all_eq_true.1 hall c hmem] at h
  cases h

lemma cutHost_run {inBrackets : Bool}
    (h : ∀ c ∈ cs, (c = ':' → inBrackets = true) ∧ c ≠ '[' ∧ c ≠ ']') (rest : List Char) :
    cutHost inBrackets (cs ++ rest) =
      (cs ++ (cutHost inBrackets rest).1, (cutHost inBrackets rest).2) := by
  induction cs with
  | nil => rfl
  | cons c cs ih =>
    obtain ⟨⟨hcolon, hopen, hclose⟩, hcs⟩ := List.forall_mem_cons.1 h
    rw [List.cons_append, cutHost, if_neg fun hend => hend.2 (hcolon hend.1), if_neg hopen,
      if_neg hclose, ih hcs]
    rfl

lemma isAuthorityEnd_of_isPlain (h : isPlain c = true) : isAuthorityEnd c = false := by
  refine Bool.eq_false_iff.2 fun hend => ?_
  simp only [isAuthorityEnd, isSlash, Bool.or_eq_true, beq_iff_eq] at hend
  rcases hend with ((rfl | rfl) | rfl) | rfl
  all_goals exact absurd h (by decide)

namespace IsHostText

lemma ne_nil (h : IsHostText cs) : cs ≠ [] := by
  cases h with
  | name hne => exact hne
  | bracketed => nofun

lemma isPlain (h : IsHostText cs) : ∀ c ∈ cs, isPlain c = true := by
  cases h with
  | name _ h => exact fun c hc => isPlain_of_isForbidden (h c hc)
  | bracketed h =>
    intro c hc
    simp only [List.mem_cons, List.mem_append, List.not_mem_nil, or_false] at hc
    rcases hc with rfl | hc | rfl
    · decide
    · rcases h c hc with hex | rfl
      · exact isPlain_of_isForbidden (isForbidden_hex hex)
      · decide
    · decide

lemma cutHost_append (h : IsHostText cs) (rest : List Char) :
    cutHost false (cs ++ rest) = (cs ++ (cutHost false rest).1, (cutHost false rest).2) := by
  cases h with
  | name _ h =>
    refine cutHost_run (fun c hc => ⟨?_, ?_, ?_⟩) rest
    all_goals
      rintro rfl
      exact absurd (h _ hc) (by decide)
  | @bracketed inner h =>
    have hinner (c : Char) (hc : c ∈ inner) : (c = ':' → true = true) ∧ c ≠ '[' ∧ c ≠ ']' := by
      refine ⟨fun _ => rfl, ?_, ?_⟩
      all_goals
        rintro rfl
        exact absurd (h _ hc) (by decide)
    rw [List.cons_append, List.append_assoc, List.singleton_append, cutHost, if_neg (by decide),
      if_pos rfl, cutHost_run hinner, cutHost, if_neg (by decide), if_neg (by decide), if_pos rfl]
    simp

end IsHostText

/-! ### Reading the address of a server -/

def serverText (host : String) (port : Option Nat) : List Char :=
  ['h', 't', 't', 'p', ':', '/', '/'] ++ (host.toList ++ (portText port).toList)

lemma isPlain_portText (port : Option Nat) : ∀ c ∈ (portText port).toList, isPlain c = true := by
  rcases port with _ | n
  · nofun
  · intro c hc
    rw [portText, String.toList_append] at hc
    rcases List.mem_append.1 hc with hc | hc
    · obtain rfl := List.mem_singleton.1 hc
      decide
    · exact isPlain_of_isForbidden (isForbidden_hex (hex_toString n c hc))

lemma isPlain_authority (hhost : IsHostText host.toList) (port : Option Nat) :
    ∀ c ∈ host.toList ++ (portText port).toList, isPlain c = true := by
  intro c hc
  rcases List.mem_append.1 hc with hc | hc
  · exact hhost.isPlain c hc
  · exact isPlain_portText port c hc

lemma readPort_portText (hport : ∀ n ∈ port, n < 65536) :
    readPort ((cutHost false (portText port).toList).2.getD []) = .ok port ∧
      (cutHost false (portText port).toList).1 = [] := by
  rcases port with _ | n
  · exact ⟨rfl, rfl⟩
  · have hdigits : (toString n).toList = Nat.toDigits 10 n := Nat.toList_repr
    have hcut : cutHost false (portText (some n)).toList = ([], some (Nat.toDigits 10 n)) := by
      rw [portText, String.toList_append, hdigits]
      rfl
    rw [hcut]
    refine ⟨?_, rfl⟩
    rw [Option.getD_some, readPort, if_neg (by simp [Nat.toDigits_ne_nil]),
      inRadix_toDigits (by decide) (by decide)]
    exact if_pos (hport n rfl)

/-! An authority is cut off where a path begins. -/

section

variable {authority : List Char}

lemma not_isAuthorityEnd (h : ∀ c ∈ authority, isPlain c = true) :
    ∀ c ∈ authority, (!isAuthorityEnd c) = true := fun c hc => by
  rw [isAuthorityEnd_of_isPlain (h c hc), Bool.not_false]

lemma takeWhile_authority (h : ∀ c ∈ authority, isPlain c = true) (rest : List Char) :
    (authority ++ '/' :: rest).takeWhile (!isAuthorityEnd ·) = authority := by
  rw [List.takeWhile_append_of_pos (not_isAuthorityEnd h), List.takeWhile_cons_of_neg (by decide),
    List.append_nil]

lemma dropWhile_authority (h : ∀ c ∈ authority, isPlain c = true) (rest : List Char) :
    (authority ++ '/' :: rest).dropWhile (!isAuthorityEnd ·) = '/' :: rest := by
  rw [List.dropWhile_append_of_pos (not_isAuthorityEnd h), List.dropWhile_cons_of_neg (by decide)]

lemma dropWhile_isSlash (hne : authority ≠ []) (h : ∀ c ∈ authority, isPlain c = true)
    (rest : List Char) :
    ('/' :: '/' :: (authority ++ '/' :: rest)).dropWhile isSlash = authority ++ '/' :: rest := by
  obtain ⟨c, cs, rfl⟩ := List.exists_cons_of_ne_nil hne
  have hstop : ¬ isSlash c = true := by
    have hend := isAuthorityEnd_of_isPlain (h c List.mem_cons_self)
    simp only [isAuthorityEnd, Bool.or_eq_false_iff] at hend
    exact Bool.eq_false_iff.1 hend.1.1
  rw [List.dropWhile_cons_of_pos (by decide), List.dropWhile_cons_of_pos (by decide),
    List.cons_append, List.dropWhile_cons_of_neg hstop]

lemma cutUser_authority (h : ∀ c ∈ authority, isPlain c = true) :
    cutUser authority = (("", ""), authority) := by
  rw [cutUser, cutLast_eq_none.2 fun hmem => absurd (h _ hmem) (by decide)]

end

lemma readWeb_server (hhost : IsHostText host.toList) (hport : ∀ n ∈ port, n < 65536 ∧ n ≠ 80)
    (rest : List Char) :
    readWeb false ('/' :: '/' :: (host.toList ++ (portText port).toList ++ '/' :: rest)) =
      (readHost host.toList).map fun h =>
        readTail ⟨false, "", "", h, port, [""], none, none⟩ ('/' :: rest) := by
  have hplain := isPlain_authority hhost port
  have hne : host.toList ++ (portText port).toList ≠ [] :=
    List.append_ne_nil_of_left_ne_nil hhost.ne_nil _
  obtain ⟨hread, hcut⟩ := readPort_portText fun n hn => (hport n hn).1
  have hsplit := hhost.cutHost_append (portText port).toList
  rw [hcut, List.append_nil] at hsplit
  -- the port of the scheme itself would be left out
  have hkept : port.filter (· != schemePort false) = port := by
    rcases port with _ | n
    · rfl
    · exact Option.filter_some_pos (bne_iff_ne.2 (hport n rfl).2)
  rw [readWeb, dropWhile_isSlash hne hplain]
  dsimp only
  rw [takeWhile_authority hplain, dropWhile_authority hplain, cutUser_authority hplain]
  dsimp only
  rw [hsplit]
  dsimp only
  rw [hread]
  rcases readHost host.toList with f | h
  · rfl
  · simp only [bind, Except.bind]
    rw [hkept]
    rfl

lemma serverText_append (host : String) (port : Option Nat) (rest : List Char) :
    serverText host port ++ rest = ['h', 't', 't', 'p'] ++
      ':' :: '/' :: '/' :: (host.toList ++ (portText port).toList ++ rest) :=
  List.append_assoc ..

lemma cutScheme_server (host : String) (port : Option Nat) (rest : List Char) :
    cutScheme (serverText host port ++ rest) =
      some ("http", '/' :: '/' :: (host.toList ++ (portText port).toList ++ rest)) := by
  have hname : String.ofList (['h', 't', 't', 'p'].map Char.toLower) = "http" := by decide
  rw [serverText_append, cutScheme, cutFirst_append (by decide)]
  dsimp only
  rw [if_pos (by decide), hname]

lemma getLast?_serverText (hhost : IsHostText host.toList)
    (h : (serverText host port).getLast? = some c) : isPlain c = true := by
  have hne : host.toList ++ (portText port).toList ≠ [] :=
    fun hnil => hhost.ne_nil (List.append_eq_nil_iff.1 hnil).1
  rw [serverText, List.getLast?_append, List.getLast?_eq_some_getLast hne] at h
  obtain rfl := Option.some.inj h
  exact isPlain_authority hhost port _ (List.getLast_mem hne)

lemma tidy_server (hhost : IsHostText host.toList) {cs : List Char}
    (hlast : ∀ c ∈ cs.getLast?, 0x20 < c.toNat) :
    tidy (serverText host port ++ '/' :: cs) = serverText host port ++ '/' :: undropped cs := by
  have hhead (c : Char) (h : (serverText host port ++ '/' :: cs).head? = some c) :
      decide (c.toNat ≤ 0x20) = false := by
    cases h
    decide
  have hend (c : Char) (h : (serverText host port ++ '/' :: cs).getLast? = some c) :
      decide (c.toNat ≤ 0x20) = false := by
    rw [List.getLast?_append, List.getLast?_cons] at h
    obtain rfl := Option.some.inj h
    rcases hcs : cs.getLast? with _ | d
    · decide
    · exact decide_eq_false (Nat.not_le.2 (hlast d hcs))
  have hscheme : undropped ['h', 't', 't', 'p', ':', '/', '/'] =
      ['h', 't', 't', 'p', ':', '/', '/'] := by decide
  have hauthority : undropped (host.toList ++ (portText port).toList) =
      host.toList ++ (portText port).toList := by
    refine List.filter_eq_self.2 fun c hc => decide_eq_true fun hdropped => ?_
    exact of_decide_eq_true (isPlain_authority hhost port c hc)
      (List.mem_append_right ['/', '\\', '?', '#', '@'] hdropped)
  rw [tidy, trimBy_eq_self hhead hend, ← undropped, undropped_append, serverText, undropped_append,
    hscheme, hauthority]
  rfl

lemma parse_server (hhost : IsHostText host.toList) (hport : ∀ n ∈ port, n < 65536 ∧ n ≠ 80)
    {s : String} {cs : List Char} (hs : s.toList = serverText host port ++ '/' :: cs)
    (hlast : ∀ c ∈ cs.getLast?, 0x20 < c.toNat) :
    parse s = (readHost host.toList).map fun h =>
      .web (readTail ⟨false, "", "", h, port, [""], none, none⟩ ('/' :: undropped cs)) := by
  rw [parse, hs, tidy_server hhost hlast, cutScheme_server]
  dsimp only
  rw [readWeb_server hhost hport]
  rcases readHost host.toList with f | h
  · rfl
  · rfl

/-! ### Servers -/

lemma lt_of_readPort (h : readPort cs = .ok port) : ∀ n ∈ port, n < 65536 := by
  intro n hn
  rw [readPort] at h
  split at h
  · cases h
    cases hn
  · split at h
    · split at h
      · cases h
        cases hn
        assumption
      · cases h
    · cases h

lemma readWeb_authority {isSecure : Bool} {u : Url} (h : readWeb isSecure cs = .ok u) :
    u.isSecure = isSecure ∧ (∃ text, readHost text = .ok u.host) ∧
      ∀ n ∈ u.port, n < 65536 ∧ n ≠ schemePort isSecure := by
  rw [readWeb] at h
  obtain ⟨host, hhost, h⟩ := bind_eq_ok.1 h
  obtain ⟨port, hport, h⟩ := bind_eq_ok.1 h
  cases h
  refine ⟨rfl, ⟨_, hhost⟩, fun n hn => ?_⟩
  obtain ⟨hn, hne⟩ := Option.mem_filter_iff.1 hn
  exact ⟨lt_of_readPort hport n hn, bne_iff_ne.1 hne⟩

lemma parseWeb?_authority {s : String} {u : Url} (h : parseWeb? s = some u) :
    (∃ text, readHost text = .ok u.host) ∧
      ∀ n ∈ u.port, n < 65536 ∧ n ≠ schemePort u.isSecure := by
  have hweb : ∃ isSecure rest, readWeb isSecure rest = .ok u := by
    rw [parseWeb?] at h
    split at h
    · rename_i v hparse
      obtain rfl := Option.some.inj h
      rw [parse] at hparse
      split at hparse
      · cases hparse
      · split at hparse
        all_goals
          obtain ⟨x, hx, heq⟩ := map_eq_ok hparse
          cases heq
        · exact ⟨_, _, hx⟩
        · exact ⟨_, _, hx⟩
    · cases h
  obtain ⟨isSecure, rest, hread⟩ := hweb
  obtain ⟨rfl, hhost, hport⟩ := readWeb_authority hread
  exact ⟨hhost, hport⟩

/-- The address of a server, `http://host:port/`. -/
structure IsServer (u : Url) : Prop where
  isSecure : u.isSecure = false
  username : u.username = ""
  password : u.password = ""
  path : u.path = [""]
  query : u.query = none
  fragment : u.fragment = none
  /-- An address is read back from its text. -/
  readBack : parseWeb? u.text = some u

namespace IsServer

variable {u : Url}

lemma eq (h : u.IsServer) : u = ⟨false, "", "", u.host, u.port, [""], none, none⟩ := by
  obtain ⟨isSecure, username, password, host, port, path, query, fragment⟩ := u
  obtain ⟨rfl, rfl, rfl, rfl, rfl, rfl, -⟩ := h
  rfl

lemma text_eq (h : u.IsServer) : u.text = "http://" ++ u.host ++ portText u.port ++ "/" := by
  have hscheme : "http" ++ "://" ++ "" = "http://" := by decide
  have hpath : "/" ++ "" ++ "" = "/" := by decide
  have htext : u.text =
      "http" ++ "://" ++ "" ++ u.host ++ portText u.port ++ ("/" ++ "" ++ "") ++ "" := by
    rw [text, scheme, userInfo, target, pathText, h.isSecure, h.username, h.password, h.path,
      h.query, h.fragment]
    rfl
  rw [hscheme, hpath] at htext
  exact htext.trans String.append_empty

lemma toList_text (h : u.IsServer) : u.text.toList = serverText u.host u.port ++ ['/'] := by
  have hscheme : "http://".toList = ['h', 't', 't', 'p', ':', '/', '/'] := by decide
  have hslash : "/".toList = ['/'] := by decide
  rw [h.text_eq, String.toList_append, String.toList_append, String.toList_append, hscheme, hslash]
  simp only [serverText, List.append_assoc]

lemma isHostText (h : u.IsServer) : IsHostText u.host.toList := by
  obtain ⟨⟨text, hread⟩, -⟩ := parseWeb?_authority h.readBack
  exact isHostText_readHost hread

lemma port_lt (h : u.IsServer) : ∀ n ∈ u.port, n < 65536 ∧ n ≠ 80 := by
  obtain ⟨-, hport⟩ := parseWeb?_authority h.readBack
  rwa [h.isSecure] at hport

lemma readHost_eq (h : u.IsServer) : readHost u.host.toList = .ok u.host := by
  have hparse := parse_server h.isHostText h.port_lt h.toList_text nofun
  have hback := h.readBack
  rw [parseWeb?, hparse] at hback
  rcases hread : readHost u.host.toList with f | host
  · rw [hread] at hback
    cases hback
  · rw [hread] at hback
    have := congrArg Url.host (Option.some.inj hback)
    exact congrArg Except.ok this

lemma parseWeb?_append (h : u.IsServer) {s : String} {cs : List Char}
    (hs : s.toList = serverText u.host u.port ++ '/' :: cs)
    (hlast : ∀ c ∈ cs.getLast?, 0x20 < c.toNat) :
    parseWeb? s = some (readTail u ('/' :: undropped cs)) := by
  rw [parseWeb?, parse_server h.isHostText h.port_lt hs hlast, h.readHost_eq]
  exact congrArg (fun v => some (readTail v _)) h.eq.symm

end IsServer

end RegistrySync.Url
