import Mathlib.Tactic.Lemma
import RegistrySync.Image.Reference
import RegistrySync.Proofs.Text.Cut

/-!
Reading back what is written.

A reference with proper parts is read as these parts from the text it is written as. A plain
reference is a text that is its own name: no tag, no digest, no slash at its ends. Behind it a tag
is read as a tag.
-/

namespace RegistrySync.Reference

open Text

/-! ### Writing and reading -/

/-- Parts that do not run into each other when they are written. -/
structure IsWritable (r : Reference) : Prop where
  /-- A host is one segment that can not be taken for a path, and without one the path can not be
  taken for a host. -/
  repo : r.repo = "" ∧ isHost (firstSegment r.path.toList) = false ∨
    isHost r.repo.toList = true ∧ '/' ∉ r.repo.toList ∧ '@' ∉ r.repo.toList
  path_ne : r.path ≠ ""
  path : '@' ∉ r.path.toList ∧ r.path.toList.head? ≠ some '/' ∧ r.path.toList.getLast? ≠ some '/'
  tag : ∀ tag ∈ r.tag, isTag tag
  /-- Without a tag no end of the path can be taken for one. -/
  untagged : r.tag = none → ':' ∉ lastSegment r.path.toList

variable {r : Reference} {s tag : String} {name before after : List Char}

lemma isTag_iff : isTag tag ↔
    tag.toList ≠ [] ∧ '/' ∉ tag.toList ∧ ':' ∉ tag.toList ∧ '@' ∉ tag.toList := by
  have hall : (∀ c ∈ tag.toList, (c ≠ '/' ∧ c ≠ ':') ∧ c ≠ '@') ↔
      '/' ∉ tag.toList ∧ ':' ∉ tag.toList ∧ '@' ∉ tag.toList := by
    constructor
    · intro h
      exact ⟨fun hm => (h _ hm).1.1 rfl, fun hm => (h _ hm).1.2 rfl, fun hm => (h _ hm).2 rfl⟩
    · rintro ⟨h1, h2, h3⟩ c hc
      exact ⟨⟨fun e => h1 (e ▸ hc), fun e => h2 (e ▸ hc)⟩, fun e => h3 (e ▸ hc)⟩
  simp only [isTag, Bool.and_eq_true, List.all_eq_true, bne_iff_ne, hall]
  simp

lemma withoutDigest_append (h : '@' ∉ name) :
    withoutDigest (name ++ after) = name ++ withoutDigest after := by
  refine List.takeWhile_append_of_pos fun c hc => ?_
  simpa using fun e : c = '@' => h (e ▸ hc)

lemma withoutDigest_eq_self (h : '@' ∉ name) : withoutDigest name = name := by
  rw [← List.append_nil name, withoutDigest_append h]
  rfl

lemma splitTag_append (hs : '/' ∉ after) (hc : ':' ∉ after)
    (hn : '/' ∈ before ∨ isHost before = false) :
    splitTag (before ++ ':' :: after) = (before, some after) := by
  rw [splitTag, cutLast_append hc]
  have : isTagColon before after = true := by
    rcases hn with hn | hn <;> simp [isTagColon, hs, hn]
  simp [this]

lemma splitTag_eq_self (h : ':' ∉ lastSegment name) : splitTag name = (name, none) := by
  rcases hc : cutLast ':' name with _ | ⟨a, b⟩
  · rw [splitTag, hc]
  · obtain ⟨rfl, -⟩ := cutLast_eq_some hc
    have hb : '/' ∈ b := Decidable.byContradiction fun hb => h (mem_lastSegment (by decide) hb)
    rw [splitTag, hc]
    simp [isTagColon, hb]

lemma splitHost_append (hh : isHost before = true) (hs : '/' ∉ before) :
    splitHost (before ++ '/' :: after) = (before, after) := by
  rw [splitHost, cutFirst_append hs]
  simp [hh]

lemma splitHost_eq_self (h : isHost (firstSegment name) = false) :
    splitHost name = ([], name) := by
  rw [splitHost]
  rcases hc : cutFirst '/' name with _ | ⟨a, b⟩
  · rw [firstSegment_eq_self (cutFirst_eq_none.1 hc)] at h
    simp [h]
  · obtain ⟨rfl, ha⟩ := cutFirst_eq_some hc
    rw [firstSegment_append ha] at h
    simp [h]

lemma trimBy_slash_iff : trimBy (· == '/') name = name ↔
    name.head? ≠ some '/' ∧ name.getLast? ≠ some '/' := by
  constructor
  · intro ht
    rw [← ht]
    exact ⟨fun hh => absurd (head?_trimBy hh) (by decide),
      fun hl => absurd (getLast?_trimBy hl) (by decide)⟩
  · rintro ⟨hh, hl⟩
    refine trimBy_eq_self (fun c hc => ?_) fun c hc => ?_
    · simpa using fun e : c = '/' => hh (e ▸ hc)
    · simpa using fun e : c = '/' => hl (e ▸ hc)

lemma parse_eq (s : String) : parse s =
    { repo := String.ofList (splitHost (splitTag (withoutDigest s.toList)).1).1
      path := String.ofList
        (trimBy (· == '/') (splitHost (splitTag (withoutDigest s.toList)).1).2)
      tag := ((splitTag (withoutDigest s.toList)).2.filter (!·.isEmpty)).map String.ofList } := rfl

namespace IsWritable

lemma toList_name (h : r.IsWritable) : r.name.toList =
    if r.repo = "" then r.path.toList else r.repo.toList ++ '/' :: r.path.toList := by
  rw [name, join]
  by_cases hr : r.repo = ""
  · simp [hr]
  · simp [hr, h.path_ne]

lemma splitHost_name (h : r.IsWritable) :
    splitHost r.name.toList = (r.repo.toList, r.path.toList) := by
  rw [h.toList_name]
  rcases h.repo with ⟨hr, hh⟩ | ⟨hh, hs, -⟩
  · rw [if_pos hr, splitHost_eq_self hh, hr]
    rfl
  · rw [if_neg fun e => by rw [e] at hh; exact absurd hh (by decide), splitHost_append hh hs]

lemma digest_name (h : r.IsWritable) : '@' ∉ r.name.toList := by
  rw [h.toList_name]
  split
  · exact h.path.1
  · rename_i hr
    rcases h.repo with ⟨e, -⟩ | ⟨-, -, hd⟩
    · exact absurd e hr
    · simp [hd, h.path.1]

lemma name_not_host (h : r.IsWritable) : '/' ∈ r.name.toList ∨ isHost r.name.toList = false := by
  rw [h.toList_name]
  split
  · rename_i hr
    rcases h.repo with ⟨-, hh⟩ | ⟨hh, -⟩
    · by_cases hs : '/' ∈ r.path.toList
      · exact .inl hs
      · rw [firstSegment_eq_self hs] at hh
        exact .inr hh
    · rw [hr] at hh
      exact absurd hh (by decide)
  · exact .inl (by simp)

lemma lastSegment_name (h : r.IsWritable) :
    lastSegment r.name.toList = lastSegment r.path.toList := by
  rw [h.toList_name]
  split
  · rfl
  · exact lastSegment_append

lemma splitTag_text (h : r.IsWritable) :
    splitTag r.text.toList = (r.name.toList, r.tag.map String.toList) := by
  rw [text, String.toList_append]
  rcases ht : r.tag with _ | tag
  · have hu := h.untagged ht
    rw [← h.lastSegment_name] at hu
    simpa using splitTag_eq_self hu
  · obtain ⟨-, hs, hc, -⟩ := isTag_iff.1 (h.tag tag ht)
    simpa using splitTag_append hs hc h.name_not_host

lemma digest_text (h : r.IsWritable) : '@' ∉ r.text.toList := by
  rw [text, String.toList_append]
  rcases ht : r.tag with _ | tag
  · simpa using h.digest_name
  · obtain ⟨-, -, -, hd⟩ := isTag_iff.1 (h.tag tag ht)
    simp [h.digest_name, hd]

lemma parse_text (h : r.IsWritable) : parse r.text = r := by
  have htag : ((r.tag.map String.toList).filter (!·.isEmpty)).map String.ofList = r.tag := by
    rcases ht : r.tag with _ | tag
    · rfl
    · obtain ⟨hne, -⟩ := isTag_iff.1 (h.tag tag ht)
      simp [Option.filter, hne]
  rw [parse_eq, withoutDigest_eq_self h.digest_text, h.splitTag_text, h.splitHost_name,
    trimBy_slash_iff.2 h.path.2, htag, String.ofList_toList, String.ofList_toList]

end IsWritable

/-! ### Plain references -/

/-- A text that is its own name, and not that of a host alone. -/
def IsPlain (s : String) : Prop := (parse s).path ≠ "" ∧ (parse s).name = s

instance (s : String) : Decidable (IsPlain s) := inferInstanceAs (Decidable (_ ∧ _))

lemma length_join_le (host path : List Char) :
    (join (String.ofList host) (String.ofList path)).toList.length ≤
      host.length + path.length + 1 := by
  rw [join]
  split
  · simp
    omega
  · split
    · simp
      omega
    · simp
      omega

lemma length_name_le (s : String) :
    (parse s).name.toList.length ≤ (splitTag (withoutDigest s.toList)).1.length := by
  rw [parse_eq, Reference.name]
  dsimp only
  obtain ⟨v, hv⟩ : ∃ v, v = (splitTag (withoutDigest s.toList)).1 := ⟨_, rfl⟩
  rw [← hv, splitHost]
  have htrim (cs : List Char) : (trimBy (· == '/') cs).length ≤ cs.length :=
    trimBy_sublist.length_le
  rcases hc : cutFirst '/' v with _ | ⟨a, b⟩
  · dsimp only
    split
    · rw [trimBy_nil, join]
      split <;> simp
    · simpa [join] using htrim v
  · obtain ⟨rfl, -⟩ := cutFirst_eq_some hc
    dsimp only
    split
    · have h1 := length_join_le a (trimBy (· == '/') b)
      have h2 := htrim b
      simp only [List.length_append, List.length_cons]
      omega
    · simpa [join] using htrim (a ++ '/' :: b)

lemma splitTag_cases (name : List Char) :
    splitTag name = (name, none) ∧ (':' ∉ lastSegment name ∨ '/' ∉ name ∧ isHost name = true) ∨
      (splitTag name).1.length < name.length := by
  rw [splitTag]
  rcases hc : cutLast ':' name with _ | ⟨a, b⟩
  · have hn := cutLast_eq_none.1 hc
    exact .inl ⟨rfl, .inl fun h => hn (mem_of_mem_lastSegment h)⟩
  · obtain ⟨rfl, hb⟩ := cutLast_eq_some hc
    dsimp only
    split
    · right
      simp
    · rename_i hsep
      refine .inl ⟨rfl, ?_⟩
      simp only [isTagColon, Bool.and_eq_true, Bool.not_eq_true', not_and, Bool.not_eq_false,
        List.contains_eq_mem, decide_eq_false_iff_not] at hsep
      by_cases hs : '/' ∈ b
      · left
        rw [List.append_cons, lastSegment_append_of_mem hs]
        exact fun h => hb (mem_of_mem_lastSegment h)
      · right
        obtain ⟨ha, -⟩ := hsep hs
        exact ⟨by simp [ha, hs], by simp [isHost]⟩

namespace IsPlain

lemma uncut (h : IsPlain s) : withoutDigest s.toList = s.toList ∧
    splitTag s.toList = (s.toList, none) ∧
    (':' ∉ lastSegment s.toList ∨ '/' ∉ s.toList ∧ isHost s.toList = true) := by
  have hname := length_name_le s
  rw [h.2] at hname
  have hprefix : withoutDigest s.toList <+: s.toList := List.takeWhile_prefix _
  have hle := hprefix.length_le
  rcases splitTag_cases (withoutDigest s.toList) with ⟨hsplit, hcolon⟩ | hlt
  · rw [hsplit] at hname
    have heq := hprefix.eq_of_length (Nat.le_antisymm hle hname)
    rw [heq] at hsplit hcolon
    exact ⟨heq, hsplit, hcolon⟩
  · omega

lemma digest (h : IsPlain s) : '@' ∉ s.toList := by
  intro hm
  rw [← h.uncut.1, withoutDigest] at hm
  have := List.all_eq_true.1 List.all_takeWhile _ hm
  simp at this

lemma tag_eq_none (h : IsPlain s) : (parse s).tag = none := by
  rw [parse_eq, h.uncut.1, h.uncut.2.1]
  rfl

lemma parse_eq_split (h : IsPlain s) : parse s = ⟨String.ofList (splitHost s.toList).1,
    String.ofList (trimBy (· == '/') (splitHost s.toList).2), none⟩ := by
  rw [parse_eq, h.uncut.1, h.uncut.2.1]
  rfl

lemma parse_path (h : IsPlain s) (hsplit : splitHost s.toList = ([], s.toList)) :
    trimBy (· == '/') s.toList = s.toList ∧ s ≠ "" ∧ parse s = ⟨"", s, none⟩ := by
  have hparse := h.parse_eq_split
  obtain ⟨hpath, hname⟩ := h
  rw [Reference.name, hparse, hsplit] at hname
  rw [hparse, hsplit] at hpath
  have htext : String.ofList (trimBy (· == '/') s.toList) = s := by simpa [join] using hname
  have htrim : trimBy (· == '/') s.toList = s.toList := by
    rw [← String.toList_inj, String.toList_ofList] at htext
    exact htext
  refine ⟨htrim, ?_, by simp [hparse, hsplit, htrim]⟩
  rintro rfl
  exact hpath htext

lemma parse_hosted (h : IsPlain s) (hs : s.toList = before ++ '/' :: after) (hne : before ≠ [])
    (hsplit : splitHost s.toList = (before, after)) :
    trimBy (· == '/') after = after ∧ after ≠ [] ∧
      parse s = ⟨String.ofList before, String.ofList after, none⟩ := by
  have hparse := h.parse_eq_split
  obtain ⟨hpath, hname⟩ := h
  rw [Reference.name, hparse, hsplit] at hname
  rw [hparse, hsplit] at hpath
  have hjoin : before ++ '/' :: trimBy (· == '/') after = s.toList := by
    have := congrArg String.toList hname
    simpa [join, hne, mt String.ofList_eq_empty_iff.2 hpath] using this
  have htrim : trimBy (· == '/') after = after := by
    rw [hs] at hjoin
    simpa using hjoin
  refine ⟨htrim, ?_, by rw [hparse, hsplit, htrim]⟩
  rintro rfl
  exact hpath rfl

lemma parse_cases (h : IsPlain s) :
    (∃ host path, s.toList = host ++ '/' :: path ∧ isHost host = true ∧ '/' ∉ host ∧
      trimBy (· == '/') path = path ∧ path ≠ [] ∧
      parse s = ⟨String.ofList host, String.ofList path, none⟩) ∨
    isHost (firstSegment s.toList) = false ∧ trimBy (· == '/') s.toList = s.toList ∧ s ≠ "" ∧
      parse s = ⟨"", s, none⟩ := by
  rcases hh : isHost (firstSegment s.toList) with _ | _
  · exact .inr ⟨rfl, h.parse_path (splitHost_eq_self hh)⟩
  · left
    rcases hc : cutFirst '/' s.toList with _ | ⟨host, path⟩
    · -- a host alone has no path
      rw [firstSegment_eq_self (cutFirst_eq_none.1 hc)] at hh
      refine absurd ?_ h.1
      rw [h.parse_eq_split, splitHost, hc]
      simp [hh]
    · obtain ⟨hs, hslash⟩ := cutFirst_eq_some hc
      rw [hs, firstSegment_append hslash] at hh
      have hne : host ≠ [] := by
        rintro rfl
        exact absurd hh (by decide)
      have hsplit : splitHost s.toList = (host, path) := by rw [hs, splitHost_append hh hslash]
      exact ⟨host, path, hs, hh, hslash, h.parse_hosted hs hne hsplit⟩

lemma isWritable (h : IsPlain s) : (parse s).IsWritable := by
  have hd := h.digest
  rcases h.parse_cases with
    ⟨host, path, hs, hh, hslash, htrim, hne, hparse⟩ | ⟨hh, htrim, hne, hparse⟩
  · have hcolon : ':' ∉ lastSegment path := by
      rcases h.uncut.2.2 with hc | ⟨hno, -⟩
      · rwa [hs, lastSegment_append] at hc
      · exact absurd (by simp [hs]) hno
    rw [hs] at hd
    simp only [List.mem_append, List.mem_cons, not_or] at hd
    rw [hparse]
    exact ⟨.inr ⟨by simpa using hh, by simpa using hslash, by simpa using hd.1⟩, by simpa using hne,
      by simpa using ⟨hd.2.2, trimBy_slash_iff.1 htrim⟩, nofun, fun _ => by simpa using hcolon⟩
  · have hcolon : ':' ∉ lastSegment s.toList := by
      rcases h.uncut.2.2 with hc | ⟨hno, hhost⟩
      · exact hc
      · rw [firstSegment_eq_self hno] at hh
        rw [hh] at hhost
        cases hhost
    rw [hparse]
    exact ⟨.inl ⟨rfl, hh⟩, hne, ⟨hd, trimBy_slash_iff.1 htrim⟩, nofun, fun _ => hcolon⟩

lemma parse_tagged (h : IsPlain s) (ht : isTag tag) :
    parse (s ++ ":" ++ tag) = { parse s with tag := some tag } := by
  obtain ⟨hrepo, hne, hpath, -, -⟩ := h.isWritable
  have hw : IsWritable { parse s with tag := some tag } :=
    ⟨hrepo, hne, hpath, fun _ e => by cases e; exact ht, nofun⟩
  have htext : Reference.text { parse s with tag := some tag } = s ++ ":" ++ tag := by
    have hname : Reference.name { parse s with tag := some tag } = s := h.2
    rw [Reference.text, hname, String.append_assoc]
  rw [← htext, hw.parse_text]

end IsPlain

lemma IsWritable.parse_name (h : r.IsWritable) (ht : r.tag = none) : parse r.name = r := by
  have hp := h.parse_text
  rw [text, ht] at hp
  simpa using hp

lemma IsWritable.isPlain (h : r.IsWritable) (ht : r.tag = none) : IsPlain r.name := by
  rw [IsPlain, h.parse_name ht]
  exact ⟨h.path_ne, rfl⟩

/-! ### The normal spelling -/

def normal (r : Reference) : Reference where
  repo := normalizeHost r.repo
  path := if normalizeHost r.repo = hubHost ∧ ¬ r.path.toList.contains '/' then
    hubFolder ++ "/" ++ r.path else r.path
  tag := none

lemma join_eq {repo path : String} (hr : repo ≠ "") (hp : path ≠ "") :
    join repo path = repo ++ "/" ++ path := by
  rw [join, if_neg (by simpa using hr), if_neg (by simpa using hp)]

lemma normalizeHost_ne (repo : String) : normalizeHost repo ≠ "" := by
  rw [normalizeHost]
  split
  · decide
  · rename_i h
    exact fun e => h (.inl e)

lemma normalizeHost_idem (repo : String) :
    normalizeHost (normalizeHost repo) = normalizeHost repo := by
  by_cases h : repo = "" ∨ repo = "index.docker.io" ∨ repo = "registry-1.docker.io"
  · have hhub : normalizeHost repo = hubHost := if_pos h
    rw [hhub]
    decide
  · simp [normalizeHost, h]

lemma normalizeName_eq (h : (parse s).path ≠ "") : normalizeName s = (parse s).normal.name := by
  have he : ¬ (parse s).path.isEmpty := by simpa using h
  rw [normalizeName, normal, name]
  dsimp only
  by_cases hc : normalizeHost (parse s).repo = hubHost ∧ ¬ (parse s).path.toList.contains '/'
  · have hne : hubFolder ++ "/" ++ (parse s).path ≠ "" := by simp
    rw [if_pos ⟨hc.1, hc.2, he⟩, if_pos hc, join_eq (normalizeHost_ne _) hne]
    simp only [String.append_assoc]
  · rw [if_neg fun e => hc ⟨e.1, e.2.1⟩, if_neg hc]

lemma IsShaped.isHost_normal (h : r.IsShaped) : isHost (normalizeHost r.repo).toList = true ∧
    '/' ∉ (normalizeHost r.repo).toList ∧ '@' ∉ (normalizeHost r.repo).toList := by
  rw [normalizeHost]
  split
  · decide
  · rename_i hr
    exact h.repo.resolve_left fun e => hr (.inl e)

lemma IsShaped.normal (h : r.IsShaped) (hne : r.path ≠ "")
    (hu : ':' ∉ lastSegment r.path.toList) : r.normal.IsWritable := by
  have hhost := h.isHost_normal
  obtain ⟨-, ⟨hd, hh, hl⟩, -⟩ := h
  have hcs : (hubFolder ++ "/" ++ r.path).toList = hubFolder.toList ++ '/' :: r.path.toList := by
    simp
  have hlist : r.path.toList ≠ [] := by simpa using hne
  refine ⟨.inr hhost, ?_, ?_, nofun, fun _ => ?_⟩
  all_goals
    rw [Reference.normal]
    dsimp only
    split
  · simp [hubFolder]
  · exact hne
  · rw [hcs]
    refine ⟨by simp [hubFolder, hd], by simp [hubFolder], ?_⟩
    rw [List.getLast?_append, List.getLast?_cons_of_ne_nil hlist]
    cases hlast : r.path.toList.getLast? with
    | none => simp [hubFolder]
    | some c => simpa [hlast] using hl
  · exact ⟨hd, hh, hl⟩
  · rwa [hcs, lastSegment_append]
  · exact hu

lemma IsWritable.isShaped (h : r.IsWritable) : r.IsShaped :=
  ⟨h.repo.imp_left And.left, h.path, h.tag⟩

lemma IsWritable.normal (h : r.IsWritable) (ht : r.tag = none) : r.normal.IsWritable :=
  h.isShaped.normal h.path_ne (h.untagged ht)

lemma normal_idem (r : Reference) : r.normal.normal = r.normal := by
  simp only [normal, normalizeHost_idem, mk.injEq, true_and, and_true]
  by_cases hc : normalizeHost r.repo = hubHost ∧ ¬ r.path.toList.contains '/'
  · rw [if_pos hc, if_neg]
    simp
  · rw [if_neg hc, if_neg hc]

namespace IsPlain

lemma normalizeName (h : IsPlain s) : IsPlain (normalizeName s) := by
  rw [normalizeName_eq h.1]
  exact (h.isWritable.normal h.tag_eq_none).isPlain rfl

lemma normalizeName_idem (h : IsPlain s) :
    Reference.normalizeName (Reference.normalizeName s) = Reference.normalizeName s := by
  have hp := (h.isWritable.normal h.tag_eq_none).parse_name rfl
  rw [normalizeName_eq h.normalizeName.1, normalizeName_eq h.1, hp, normal_idem]

end IsPlain

end RegistrySync.Reference
