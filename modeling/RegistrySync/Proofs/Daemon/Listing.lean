import RegistrySync.Proofs.Daemon.Traffic
import RegistrySync.Proofs.Image.Order

/-!
What is listed under a reference.

An image is listed with exactly those tags under which the daemon shows it in the repository that is
asked for, in one order that does not depend on the answer. The short name of an image of the hub is
such a name, unless it looks like a host: what stands behind the colon is then taken for a port.
-/

namespace RegistrySync

open Daemon Reference Text

variable {wanted : Reference} {inventory : List Summary} {name tag s t : String}

/-! ### What a reference means -/

/-- The name is one of the repository of the reference, with this tag and no other than the
reference has. -/
structure Summary.Matches (wanted : Reference) (name tag : String) : Prop where
  read : (parse name).tag = some tag
  repository : normalizeName (parse name).name = normalizeName wanted.name
  allowed : ∀ own ∈ wanted.tag, own = tag

lemma Summary.matchingTag_eq_some :
    matchingTag wanted name = some tag ↔ Matches wanted name tag := by
  rw [matchingTag]
  split
  · rename_i hname
    simp only [Option.filter_eq_some_iff, Option.all_eq_true, beq_iff_eq]
    exact ⟨fun h => ⟨h.1, hname, h.2⟩, fun h => ⟨h.read, h.allowed⟩⟩
  · rename_i hname
    constructor
    · intro h
      cases h
    · intro h
      exact absurd h.repository hname

/-- What the images under a reference are like. -/
structure IsFilteredInventory (wanted : Reference) (inventory : List Summary)
    (images : List Image) : Prop where
  /-- An image carries a tag exactly if it is shown under a name that matches with this tag. -/
  carry : ∀ id tag, Image.Carry images id tag ↔
    ∃ s ∈ inventory, s.id = id ∧ ∃ name ∈ s.names.getD [], Summary.Matches wanted name tag
  bound : ∀ i ∈ images, i.repo = wanted.repo ∧ i.path = wanted.path
  tags : ∀ i ∈ images, i.tags ≠ [] ∧ i.tags.Pairwise (· < ·)
  ids : images.Pairwise (·.id ≤ ·.id)

lemma isFilteredInventory_matching :
    IsFilteredInventory wanted inventory (Image.matching wanted inventory) := by
  refine ⟨fun id tag => ?_, fun i hi => ?_, fun i hi => ?_, Image.pairwise_matching⟩
  · simp only [Image.carry_matching, Summary.matchingTag_eq_some]
  all_goals
    obtain ⟨s, -, hs⟩ := Image.mem_matching.1 hi
    obtain ⟨-, hrepo, hpath, hne, hsorted⟩ := Summary.image?_parts hs
  · exact ⟨hrepo, hpath⟩
  · exact ⟨hne, hsorted⟩

/-! ### What a daemon lists -/

lemma Daemon.Client.list_run {σ : Type} {t : Transport σ} {a : Access} {reference : String}
    {before after : σ} {answer : Answer} {body : List UInt8}
    (hsend : (send t a.list "list").run before = (.ok answer, after))
    (hbody : answer.body? = some body)
    (hinventory : (Schema.list Summary.schema).ofText (Utf8.decodeLossy body) = .ok inventory) :
    (list t a reference).run before = (.ok (Image.matching (parse reference) inventory), after) := by
  have himages : imagesOf reference body = .ok (Image.matching (parse reference) inventory) := by
    rw [imagesOf, hinventory]
  rw [list, attempt_run_bind, hsend, ← himages]
  dsimp only
  rw [hbody]
  rfl

/-- **A listing is the filtered inventory, whatever its order.** The images under a reference are
those that the daemon shows under matching names, bound to the repository that was asked for, with
their tags and ids in order. If no id stands twice, neither the order in which the daemon tells its
images and their names nor how often it tells a name makes a difference. This is what a daemon is
found to list when it answers with the inventory. -/
theorem list_filters_inventory {σ : Type} (t : Transport σ) (a : Access) (reference : String)
    (inventory : List Summary) :
    let images := Image.matching (parse reference) inventory
    IsFilteredInventory (parse reference) inventory images ∧
    ((inventory.map (·.id)).Nodup → ∀ between other, inventory.Perm between →
      List.Forall₂ Summary.IsAlike between other →
      Image.matching (parse reference) other = images) ∧
    ∀ before after answer body, (Client.send t a.list "list").run before = (.ok answer, after) →
      answer.body? = some body →
      (Schema.list Summary.schema).ofText (Utf8.decodeLossy body) = .ok inventory →
      (Client.list t a reference).run before = (.ok images, after) :=
  ⟨isFilteredInventory_matching, fun hids _ _ hperm halike => Image.matching_congr hids hperm halike,
    fun _ _ _ _ hsend hbody hinventory => Client.list_run hsend hbody hinventory⟩

/-- Two images told in another order, one of them with a name told twice. -/
theorem list_filters_inventory_alpine :
    let inventory : List Summary :=
      [⟨"sha256:b", some ["alpine:3.19", "quay.io/alpine:3.19", "alpine:3.18"]⟩,
        ⟨"sha256:a", some ["docker.io/library/alpine:latest"]⟩]
    let other : List Summary :=
      [⟨"sha256:a", some ["docker.io/library/alpine:latest"]⟩,
        ⟨"sha256:b", some ["alpine:3.18", "alpine:3.19", "quay.io/alpine:3.19", "alpine:3.18"]⟩]
    (inventory.map (·.id)).Nodup ∧ inventory.Perm inventory.reverse ∧
    List.Forall₂ Summary.IsAlike inventory.reverse other ∧
    Image.matching (parse "alpine") other = Image.matching (parse "alpine") inventory ∧
    Image.matching (parse "alpine") inventory =
      [⟨"sha256:a", "", "alpine", ["latest"]⟩, ⟨"sha256:b", "", "alpine", ["3.18", "3.19"]⟩] := by
  intro inventory other
  have hids : (inventory.map (·.id)).Nodup := by decide
  have hperm : inventory.Perm inventory.reverse := (List.reverse_perm _).symm
  have halike : List.Forall₂ Summary.IsAlike inventory.reverse other := by
    refine .cons ⟨rfl, fun _ => Iff.rfl⟩ (.cons ⟨rfl, fun name => ?_⟩ .nil)
    simp only [Option.getD_some, List.mem_cons, List.not_mem_nil, or_false]
    tauto
  exact ⟨hids, hperm, halike, (list_filters_inventory Transport.unreachable
    ⟨⟨false, "", "", "127.0.0.1", some 2375, [""], none, none⟩, "1.24", 5000⟩ "alpine"
    inventory).2.1 hids _ _ hperm halike, by decide +kernel⟩

/-! ### Short names -/

namespace Reference

def isNameChar (c : Char) : Bool := c.isLower || c.isDigit || c ∈ ['.', '_', '-']

def isNameEnd (c : Char) : Bool := c.isLower || c.isDigit

/-- A segment that a repository of the hub can be named by. -/
def isSegment (s : String) : Bool :=
  s.toList.all isNameChar && s.toList.head?.any isNameEnd && s.toList.getLast?.any isNameEnd

def inLibrary (s : String) : String := hubHost ++ "/" ++ hubFolder ++ "/" ++ s

lemma isSegment_marks (h : isSegment s) :
    s ≠ "" ∧ '/' ∉ s.toList ∧ ':' ∉ s.toList ∧ '@' ∉ s.toList := by
  simp only [isSegment, Bool.and_eq_true, List.all_eq_true] at h
  obtain ⟨⟨hall, hhead⟩, -⟩ := h
  refine ⟨?_, fun hm => absurd (hall _ hm) (by decide), fun hm => absurd (hall _ hm) (by decide),
    fun hm => absurd (hall _ hm) (by decide)⟩
  rintro rfl
  cases hhead

lemma isSegment_isHost (h : isSegment s) :
    isHost s.toList = false ↔ '.' ∉ s.toList ∧ s ≠ "localhost" := by
  obtain ⟨-, -, hcolon, -⟩ := isSegment_marks h
  have hlocal : s.toList = "localhost".toList ↔ s = "localhost" := String.toList_inj
  simp [isHost, hcolon, ← hlocal]

variable (hs : isSegment s)
include hs

lemma isSegment_isPlain (hhost : isHost s.toList = false) :
    IsPlain s ∧ parse s = ⟨"", s, none⟩ ∧ normalizeName s = inLibrary s := by
  obtain ⟨hne, hslash, hcolon, hdigest⟩ := isSegment_marks hs
  have hw : IsWritable ⟨"", s, none⟩ := by
    refine ⟨.inl ⟨rfl, ?_⟩, hne, ⟨hdigest, fun h => hslash (List.mem_of_head? h),
      fun h => hslash (List.mem_of_getLast? h)⟩, nofun, fun _ => ?_⟩
    · rwa [firstSegment_eq_self hslash]
    · rwa [lastSegment_eq_self hslash]
  have hparse : parse s = ⟨"", s, none⟩ := hw.parse_name rfl
  refine ⟨hw.isPlain rfl, hparse, ?_⟩
  have hnormal : (⟨"", s, none⟩ : Reference).normal = ⟨hubHost, hubFolder ++ "/" ++ s, none⟩ := by
    simp [normal, normalizeHost, hslash]
  have hjoin : join hubHost (hubFolder ++ "/" ++ s) = hubHost ++ "/" ++ (hubFolder ++ "/" ++ s) :=
    join_eq (by decide) (by simp [hubFolder])
  rw [normalizeName_eq (by rwa [hparse]), hparse, hnormal, Reference.name, hjoin, inLibrary]
  simp only [String.append_assoc]

lemma matches_short (ht : isTag t) (hhost : isHost s.toList = false) :
    Summary.Matches (parse (inLibrary s)) (s ++ ":" ++ t) t ∧
      Summary.Matches (parse (inLibrary s ++ ":" ++ t)) (s ++ ":" ++ t) t := by
  obtain ⟨hplain, hparse, hnormal⟩ := isSegment_isPlain hs hhost
  have hlibrary : IsPlain (inLibrary s) := hnormal ▸ hplain.normalizeName
  have hsame : normalizeName s = normalizeName (inLibrary s) := by
    rw [← hnormal, hplain.normalizeName_idem]
  have hread : parse (s ++ ":" ++ t) = ⟨"", s, some t⟩ := by rw [hplain.parse_tagged ht, hparse]
  have hname : (parse (s ++ ":" ++ t)).name = s := by rw [hread]; rfl
  have hwanted : (parse (inLibrary s ++ ":" ++ t)).name = inLibrary s := by
    rw [hlibrary.parse_tagged ht]
    exact hlibrary.2
  refine ⟨⟨by rw [hread], ?_, ?_⟩, ⟨by rw [hread], ?_, ?_⟩⟩
  · rw [hname, hlibrary.2, hsame]
  · rw [hlibrary.tag_eq_none]
    exact nofun
  · rw [hname, hwanted, hsame]
  · rw [hlibrary.parse_tagged ht]
    rintro own ⟨⟩
    rfl

lemma not_matches_short (ht : isTag t) (hhost : isHost s.toList = true) :
    ¬ Summary.Matches wanted (s ++ ":" ++ t) tag := by
  obtain ⟨-, hslash, -, hdigest⟩ := isSegment_marks hs
  obtain ⟨-, -, hcolon, hd⟩ := isTag_iff.1 ht
  have htext : (s ++ ":" ++ t).toList = s.toList ++ ':' :: t.toList := by simp
  have hmarks : '@' ∉ s.toList ++ ':' :: t.toList := by simp [hdigest, hd]
  have hsplit : splitTag (s.toList ++ ':' :: t.toList) = (s.toList ++ ':' :: t.toList, none) := by
    rw [splitTag, cutLast_append hcolon]
    simp [isTagColon, hslash, hhost]
  have hread : (parse (s ++ ":" ++ t)).tag = none := by
    rw [parse_eq, htext, withoutDigest_eq_self hmarks, hsplit]
    rfl
  intro h
  have hnone : none = some tag := hread.symm.trans h.read
  cases hnone

end Reference

/-- **The short name of an image of the hub is found unless it looks like a host.** An image that is
shown under the short name of a repository, with a tag, is listed with this tag under the full name
of the repository, with the tag or without it, in every inventory exactly if the short name has no
dot and is not `localhost`. With such a name it is never listed for the sake of this name, whatever
is asked for. -/
theorem short_name_listed_iff (hs : isSegment s) (ht : isTag t) :
    ((∀ inventory id, (∃ m ∈ inventory, m.id = id ∧ s ++ ":" ++ t ∈ m.names.getD []) →
        ∀ reference ∈ [inLibrary s, inLibrary s ++ ":" ++ t],
          Image.Carry (Image.matching (parse reference) inventory) id t) ↔
      '.' ∉ s.toList ∧ s ≠ "localhost") ∧
    ('.' ∈ s.toList ∨ s = "localhost" → ∀ wanted tag,
      ¬ Summary.Matches wanted (s ++ ":" ++ t) tag) := by
  rw [← isSegment_isHost hs]
  refine ⟨⟨fun hall => ?_, ?_⟩, fun hlike wanted tag => not_matches_short hs ht ?_⟩
  · -- an inventory of this one name
    by_contra hhost
    obtain ⟨m, hm, -, name, hname, htag⟩ := Image.carry_matching.1 (hall [⟨"", some [s ++ ":" ++ t]⟩]
      "" ⟨_, List.mem_singleton_self _, rfl, List.mem_singleton_self _⟩ (inLibrary s)
      List.mem_cons_self)
    obtain rfl := List.mem_singleton.1 hm
    obtain rfl := List.mem_singleton.1 hname
    exact not_matches_short hs ht (by simpa using hhost) (Summary.matchingTag_eq_some.1 htag)
  · rintro hhost inventory id ⟨m, hm, hid, hname⟩ reference hreference
    obtain ⟨hbare, htagged⟩ := matches_short hs ht hhost
    refine Image.carry_matching.2 ⟨m, hm, hid, _, hname, Summary.matchingTag_eq_some.2 ?_⟩
    simp only [List.mem_cons, List.not_mem_nil, or_false] at hreference
    rcases hreference with rfl | rfl
    · exact hbare
    · exact htagged
  · by_contra hhost
    obtain ⟨hdot, hlocal⟩ := (isSegment_isHost hs).1 (by simpa using hhost)
    exact hlike.elim hdot hlocal

theorem short_name_listed_iff_alpine :
    isSegment "alpine" ∧ isTag "3.18" ∧
    Image.Carry (Image.matching (parse "docker.io/library/alpine:3.18")
      [⟨"sha256:a", some ["busybox:1", "alpine:3.18"]⟩]) "sha256:a" "3.18" := by
  have hs : isSegment "alpine" := by decide
  have ht : isTag "3.18" := by decide
  exact ⟨hs, ht, (short_name_listed_iff hs ht).1.2 (by decide) _ "sha256:a"
    ⟨_, List.mem_singleton_self _, rfl, by decide⟩ _ (List.mem_cons_of_mem _ List.mem_cons_self)⟩

/-- An image with a dot in its short name is listed neither with nor without its tag. -/
theorem short_name_overlooked :
    let inventory : List Summary := [⟨"sha256:a", some ["node.js:latest"]⟩]
    isSegment "node.js" ∧ isTag "latest" ∧
    Image.matching (parse "docker.io/library/node.js") inventory = [] ∧
    Image.matching (parse "docker.io/library/node.js:latest") inventory = [] := by
  decide +kernel

end RegistrySync
