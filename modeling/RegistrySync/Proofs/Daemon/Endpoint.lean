import RegistrySync.Daemon.Request
import RegistrySync.Proofs.Url.Form
import RegistrySync.Proofs.Url.Server

/-!
Which requests on an image reach it.

The name of an image is put into the path as it is. So a push and a tag reach the image that they
are meant for exactly if its name is a literal text of a path.
-/

namespace RegistrySync.Daemon

open Text Url

variable {a : Access} {part verb : List Char}

/-- A version of the interface: two numbers with a point between them. -/
def IsVersion (version : String) : Prop :=
  ∃ major minor : List Char, version.toList = major ++ '.' :: minor ∧
    ∀ c ∈ major ++ minor, c.isDigit = true

/-- The request posts to an operation on the image that is called `name`, with these pairs. -/
structure Request.IsAimed (q : Request) (a : Access) (name verb : String)
    (pairs : List (String × String)) : Prop where
  method : q.method = .post
  server : q.url.host = a.base.host ∧ q.url.port = a.base.port
  path : ∃ segments, q.url.path = ["v" ++ a.apiVersion, "images"] ++ segments ++ [verb] ∧
    unescape (pathChars segments) = Utf8.encode name
  query : q.url.pairs = pairs ∧ (pairs = [] → q.url.query = none)

namespace Access

/-! ### The path of an operation -/

def pathTo (a : Access) (part verb : List Char) : List Char :=
  ('v' :: a.apiVersion.toList) ++ '/' :: ("images".toList ++ '/' :: (part ++ '/' :: verb))

lemma root_eq (h : a.base.IsServer) : a.root.toList = serverText a.base.host a.base.port := by
  rw [root, String.toList_ofList, h.toList_text, trimEndBy_concat, if_pos (by decide)]
  refine trimEndBy_eq_self fun c hc => beq_eq_false_iff_ne.2 ?_
  rintro rfl
  exact absurd (getLast?_serverText h.isHostText hc) (by decide)

lemma toList_endpoint (h : a.base.IsServer) {path : String}
    (hpath : path.toList = '/' :: ("images".toList ++ '/' :: (part ++ '/' :: verb))) :
    (a.root ++ ("/v" ++ a.apiVersion ++ path)).toList =
      serverText a.base.host a.base.port ++ '/' :: a.pathTo part verb := by
  have hversion : "/v".toList = ['/', 'v'] := by decide
  rw [String.toList_append, String.toList_append, String.toList_append, root_eq h, hversion, hpath,
    pathTo]
  rfl

/-! The path before and behind the name is literal. -/

lemma mem_version {version : String} (h : IsVersion version) {c : Char}
    (hc : c ∈ 'v' :: version.toList) : isForbidden c = false ∧ inPath c = false := by
  obtain ⟨major, minor, hversion, hdigits⟩ := h
  have hdigit {d : Char} (hd : d ∈ major ++ minor) : (hexValue? d).isSome := by
    have hdigit := hdigits d hd
    simp only [Char.isDigit, Bool.and_eq_true, decide_eq_true_eq] at hdigit
    have hrange : '0' ≤ d ∧ d ≤ '9' := hdigit
    rw [hexValue?, if_pos hrange]
    rfl
  have hcases : c = 'v' ∨ c = '.' ∨ c ∈ major ++ minor := by
    rw [hversion] at hc
    simp only [List.mem_cons, List.mem_append] at hc ⊢
    tauto
  rcases hcases with rfl | rfl | hc
  · decide
  · decide
  · exact ⟨isForbidden_hex (hdigit hc), inPath_kept c (.inr (hdigit hc))⟩

lemma isLiteral_version {version : String} (h : IsVersion version) :
    IsLiteral ('v' :: version.toList) ∧
      written ('v' :: version.toList) = ['v' :: version.toList] := by
  have hforbidden (c : Char) (hc : isForbidden c = true) : c ∉ 'v' :: version.toList :=
    fun hmem => absurd (mem_version h hmem).1 (by rw [hc]; decide)
  have hpieces : pieces '/' ('v' :: version.toList) = ['v' :: version.toList] :=
    pieces_eq_self (hforbidden '/' (by decide))
  refine ⟨⟨fun c hc => hforbidden c ?_, fun x y hxy => ?_, fun s hs => ?_⟩, ?_⟩
  · have hall : ['\t', '\n', '\r', '?', '#', '\\'].all isForbidden = true := by decide
    exact List.all_eq_true.1 hall c hc
  · exact absurd (hxy.subset List.mem_cons_self) (hforbidden '%' (by decide))
  · rw [hpieces]
    have hall : ∀ s ∈ [['.'], ['.', '.']], s.head? ≠ some 'v' := by decide
    rintro hmem
    obtain rfl := List.mem_singleton.1 hmem
    exact hall _ hs rfl
  · rw [written, hpieces, List.map_singleton, escape_eq_self fun c hc => (mem_version h hc).2]

def IsVerb (verb : List Char) : Prop := verb ∈ ["push".toList, "tag".toList]

lemma IsVerb.isLiteral (h : IsVerb verb) : IsLiteral verb ∧ written verb = [verb] ∧
    ∀ c ∈ verb.getLast?, 0x20 < c.toNat := by
  have hall : ∀ verb ∈ ["push".toList, "tag".toList], IsLiteral verb ∧ written verb = [verb] ∧
      (verb.getLast?.all fun c => 0x20 < c.toNat) = true := by decide
  obtain ⟨hliteral, hwritten, hlast⟩ := hall verb h
  refine ⟨hliteral, hwritten, fun c hc => ?_⟩
  rw [Option.mem_def.1 hc] at hlast
  exact of_decide_eq_true hlast

lemma isLiteral_pathTo (hversion : IsVersion a.apiVersion) (hverb : IsVerb verb) :
    IsLiteral (a.pathTo part verb) ↔ IsLiteral part := by
  have himages : IsLiteral "images".toList := by decide
  rw [pathTo, isLiteral_append, isLiteral_append, isLiteral_append]
  exact ⟨fun h => h.2.2.1,
    fun h => ⟨(isLiteral_version hversion).1, himages, h, hverb.isLiteral.1⟩⟩

lemma written_pathTo (hversion : IsVersion a.apiVersion) (hverb : IsVerb verb) :
    written (a.pathTo part verb) =
      ['v' :: a.apiVersion.toList, "images".toList] ++ written part ++ [verb] := by
  have himages : written "images".toList = ["images".toList] := by decide
  rw [pathTo, written_append, written_append, written_append, (isLiteral_version hversion).2,
    himages, hverb.isLiteral.2.1]
  rfl

lemma endpoint_eq (h : a.base.IsServer) (hverb : IsVerb verb) {path : String}
    (hpath : path.toList = '/' :: ("images".toList ++ '/' :: (part ++ '/' :: verb))) :
    a.endpoint path = readTail a.base ('/' :: undropped (a.pathTo part verb)) := by
  have hlast : ∀ c ∈ (a.pathTo part verb).getLast?, 0x20 < c.toNat := by
    intro c hc
    rw [pathTo, List.getLast?_append, List.getLast?_cons, List.getLast?_append, List.getLast?_cons,
      List.getLast?_append, List.getLast?_cons] at hc
    obtain rfl := Option.some.inj hc
    rcases hverb' : verb.getLast? with _ | d
    · exact (by decide : 0x20 < '/'.toNat)
    · exact hverb.isLiteral.2.2 d hverb'
  rw [endpoint, address, h.parseWeb?_append (toList_endpoint h hpath) hlast]
  rfl

/-! ### Requests -/

lemma toList_versionSegment (a : Access) :
    ("v" ++ a.apiVersion).toList = 'v' :: a.apiVersion.toList := by
  have hv : "v".toList = ['v'] := by decide
  rw [String.toList_append, hv]
  rfl

lemma pathChars_aimed (a : Access) (s : String) (rest : List String) (verb : String) :
    pathChars (["v" ++ a.apiVersion, "images"] ++ s :: rest ++ [verb]) =
      a.pathTo (pathChars (s :: rest)) verb.toList := by
  rw [pathTo, ← pathChars_concat, ← toList_versionSegment]
  exact (pathChars_cons ..).trans (congrArg (_ ++ '/' :: ·) (pathChars_cons ..))

lemma unescape_pathTo (hversion : IsVersion a.apiVersion) (hverb : IsVerb verb)
    {name : List Char} (hname : unescape part = rawBytes name) :
    unescape (a.pathTo part verb) = rawBytes (a.pathTo name verb) := by
  have himages : IsLiteral "images".toList := by decide
  have hslash (front back : List Char) :
      rawBytes (front ++ '/' :: back) = rawBytes front ++ 47 :: rawBytes back :=
    List.flatMap_append
  simp only [pathTo, unescape_slash, hslash, hname,
    unescape_of_isEscapeless (isLiteral_version hversion).1.escapes,
    unescape_of_isEscapeless himages.escapes,
    unescape_of_isEscapeless hverb.isLiteral.1.escapes]

section

variable {name verb : String}

def requestTo (a : Access) (name verb : String) (pairs : List (String × String))
    (auth : Option String) : Request :=
  ⟨.post, (readTail a.base ('/' :: undropped (a.pathTo name.toList verb.toList))).withPairs pairs,
    auth, none⟩

lemma isLiteral_of_isAimed (hversion : IsVersion a.apiVersion) (hverb : IsVerb verb.toList)
    {pairs : List (String × String)} {auth : Option String}
    (h : (a.requestTo name verb pairs auth).IsAimed a name verb pairs) : IsLiteral name.toList := by
  obtain ⟨segments, hsegments, hname⟩ := h.path
  rw [requestTo, withPairs_eq] at hsegments
  rcases segments with _ | ⟨s, rest⟩
  · have hempty : name.toList = [] := rawBytes_injective hname.symm
    rw [hempty]
    decide
  · refine (isLiteral_pathTo hversion hverb).1 ((readTail_cases a.base _).resolve_right ?_)
    have hpath : (readTail a.base ('/' :: undropped (a.pathTo name.toList verb.toList))).path =
      ["v" ++ a.apiVersion, "images"] ++ s :: rest ++ [verb] := hsegments
    rw [hpath, pathChars_aimed, unescape_pathTo hversion hverb hname]
    exact Nat.lt_irrefl _

lemma isAimed_of_isLiteral (hversion : IsVersion a.apiVersion) (hverb : IsVerb verb.toList)
    (h : IsLiteral name.toList) (pairs : List (String × String)) (auth : Option String) :
    (a.requestTo name verb pairs auth).IsAimed a name verb pairs := by
  have hwhole := (isLiteral_pathTo hversion hverb).2 h
  rw [requestTo, hwhole.readTail_eq, written_pathTo hversion hverb]
  refine ⟨rfl, ?_, ⟨(written name.toList).map String.ofList, ?_, ?_⟩, ?_, ?_⟩
  · rw [withPairs_eq]
    exact ⟨rfl, rfl⟩
  · rw [withPairs_eq]
    have hv : String.ofList ('v' :: a.apiVersion.toList) = "v" ++ a.apiVersion := by
      rw [← toList_versionSegment, String.ofList_toList]
    simp only [List.map_append, List.map_cons, List.map_nil, hv, String.ofList_toList]
  · rw [pathChars_map, unescape_written]
    exact unescape_of_isEscapeless h.escapes
  · exact pairs_withPairs _ pairs
  · rintro rfl
    rfl

lemma isAimed_iff (h : a.base.IsServer) (hversion : IsVersion a.apiVersion) {path : String}
    (hverb : IsVerb verb.toList)
    (hpath : path.toList = '/' :: ("images".toList ++ '/' :: (name.toList ++ '/' :: verb.toList)))
    (pairs : List (String × String)) (auth : Option String) :
    (⟨.post, (a.endpoint path).withPairs pairs, auth, none⟩ : Request).IsAimed a name verb pairs ↔
      IsLiteral name.toList := by
  rw [endpoint_eq h hverb hpath]
  exact ⟨isLiteral_of_isAimed hversion hverb,
    fun hname => isAimed_of_isLiteral hversion hverb hname pairs auth⟩

end

end Access

/-- **A request on an image reaches it if its name is literal.** Take the address of a server and
any version of the interface. A push of a reference is a post to the image that the reference is
read as, with the tag unless all tags are pushed, and tagging an image is a post to it, with the new
name and tag, exactly if the text that is put into the path is read there as it is. -/
theorem image_reached_iff (a : Access) (hbase : a.base.IsServer) (hversion : IsVersion a.apiVersion)
    (reference id auth : String) (allTags : Bool) :
    let r := Reference.parse reference
    ((a.push reference allTags auth).IsAimed a r.name "push"
        (if allTags then [] else [("tag", r.tagOrLatest)]) ↔ IsLiteral r.name.toList) ∧
      ((a.tag id reference).IsAimed a id "tag" [("repo", r.name), ("tag", r.tagOrLatest)] ↔
        IsLiteral id.toList) := by
  have hpath (name : String) {verb path : String} (hverb : path.toList = '/' :: verb.toList) :
      ("/images/" ++ name ++ path).toList =
        '/' :: ("images".toList ++ '/' :: (name.toList ++ '/' :: verb.toList)) := by
    have himages : "/images/".toList = '/' :: "images".toList ++ ['/'] := by decide
    rw [String.toList_append, String.toList_append, hverb, himages]
    simp
  intro r
  rw [Access.push, Access.tag]
  have hpush : Access.IsVerb "push".toList := List.mem_cons_self
  have htag : Access.IsVerb "tag".toList := List.mem_cons_of_mem _ List.mem_cons_self
  exact ⟨Access.isAimed_iff hbase hversion hpush (hpath r.name (by decide)) _ _,
    Access.isAimed_iff hbase hversion htag (hpath id (by decide)) _ _⟩

/-- The daemon of the machine, with names that are literal and one that is not. -/
theorem image_reached_iff_local :
    let a : Access := ⟨⟨false, "", "", "127.0.0.1", some 2375, [""], none, none⟩, "1.24", 5000⟩
    a.base.IsServer ∧ IsVersion a.apiVersion ∧
    (a.push "quay.io/mirror/app:3" false "").IsAimed a "quay.io/mirror/app" "push" [("tag", "3")] ∧
    (a.tag "sha256:1" "b/ü").IsAimed a "sha256:1" "tag" [("repo", "b/ü"), ("tag", "latest")] ∧
    ¬ (a.push "../containers/app" true "").IsAimed a "../containers/app" "push" [] := by
  intro a
  have hbase : a.base.IsServer :=
    ⟨rfl, rfl, rfl, rfl, rfl, rfl, by decide +kernel⟩
  have hversion : IsVersion a.apiVersion :=
    ⟨['1'], ['2', '4'], by decide, List.all_eq_true.1 (by decide)⟩
  have hbeyond : Reference.parse "b/ü" = ⟨"", "b/ü", none⟩ := by decide +kernel
  have happ : Reference.parse "quay.io/mirror/app:3" = ⟨"quay.io", "mirror/app", some "3"⟩ := by
    decide +kernel
  have hdots : Reference.parse "../containers/app" = ⟨"..", "containers/app", none⟩ := by
    decide +kernel
  have hpush := (image_reached_iff a hbase hversion "quay.io/mirror/app:3" "" "" false).1
  have htag := (image_reached_iff a hbase hversion "b/ü" "sha256:1" "" false).2
  have hmissed := (image_reached_iff a hbase hversion "../containers/app" "" "" true).1
  rw [happ] at hpush
  rw [hbeyond] at htag
  rw [hdots] at hmissed
  exact ⟨hbase, hversion, hpush.2 (by decide +kernel), htag.2 (by decide +kernel),
    fun h => absurd (hmissed.1 h) (by decide +kernel)⟩

/-- A question mark in a name ends the path of a push, whose operation becomes a part of the query.
-/
theorem image_missed :
    let a : Access := ⟨⟨false, "", "", "127.0.0.1", some 2375, [""], none, none⟩, "1.24", 5000⟩
    let reference := "quay.io/mirror/app?beta"
    a.base.IsServer ∧ IsVersion a.apiVersion ∧
    (a.push reference true "").url.path = ["v1.24", "images", "quay.io", "mirror", "app"] ∧
    (a.push reference true "").url.query = some "beta/push" ∧
    ¬ (a.push reference true "").IsAimed a (Reference.parse reference).name "push" [] := by
  intro a reference
  have hquery : (a.push reference true "").url.query = some "beta/push" := by decide +kernel
  refine ⟨⟨rfl, rfl, rfl, rfl, rfl, rfl, by decide +kernel⟩,
    ⟨['1'], ['2', '4'], by decide, List.all_eq_true.1 (by decide)⟩, by decide +kernel, hquery,
    fun h => ?_⟩
  have hnone := h.query.2 rfl
  rw [hquery] at hnone
  cases hnone

end RegistrySync.Daemon
