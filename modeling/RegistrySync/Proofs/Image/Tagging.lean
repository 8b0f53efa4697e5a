import Mathlib.Data.List.Induction
import RegistrySync.Proofs.Image.Parts

/-!
Texts with a tag behind them.

A tag behind the name of a repository is read as a tag. Behind any other text it is read as a tag
of the same repository only if the text has no digest and no tag of its own and is more than a host.
-/

namespace RegistrySync.Reference

open Text

variable {s tag : String} {name a b cs : List Char}

/-! ### Behind a name -/

lemma firstSegment_append_slash : firstSegment (a ++ '/' :: b) = firstSegment a := by
  rcases hc : cutFirst '/' a with _ | ⟨x, y⟩
  · have ha := cutFirst_eq_none.1 hc
    rw [firstSegment_append ha, firstSegment_eq_self ha]
  · obtain ⟨rfl, hx⟩ := cutFirst_eq_some hc
    rw [List.append_assoc, List.cons_append, firstSegment_append hx, firstSegment_append hx]

lemma firstSegment_trimBy (h : name.head? ≠ some '/') :
    firstSegment (trimBy (· == '/') name) = firstSegment name := by
  have hstart : trimStartBy (· == '/') name = name := by
    refine trimStartBy_eq_self fun c hc => ?_
    simpa using fun e : c = '/' => h (e ▸ hc)
  rw [trimBy, hstart]
  clear h hstart
  induction name using List.reverseRecOn with
  | nil => rfl
  | append_singleton name c ih =>
    rw [trimEndBy_concat]
    by_cases hc : c = '/'
    · rw [if_pos (by simp [hc]), ih, hc, firstSegment_append_slash]
    · rw [if_neg (by simp [hc])]

lemma splitTag_prefix_text (text : List Char) : (splitTag text).1 <+: text := by
  rcases splitTag_spec text with h | ⟨tag, h, -⟩
  · exact ⟨[], by simp [h]⟩
  · exact ⟨':' :: tag, h.symm⟩

lemma isWritable_tagged (h : s.toList.head? ≠ some '/') (hp : (parse s).path ≠ "")
    (ht : isTag tag) : IsWritable { parse s with tag := some tag } := by
  obtain ⟨hrepo, hpath, -⟩ := isShaped_parse s
  refine ⟨?_, hp, hpath, fun _ e => by cases e; exact ht, nofun⟩
  rcases hrepo with hrepo | hhost
  · refine .inl ⟨hrepo, ?_⟩
    obtain ⟨name, hname⟩ : ∃ name, name = (splitTag (withoutDigest s.toList)).1 := ⟨_, rfl⟩
    rw [parse_eq, ← hname] at hrepo hp ⊢
    simp only [String.toList_ofList] at hrepo hp ⊢
    rcases splitHost_spec name with ⟨hsplit, hfirst⟩ | ⟨hhost, -⟩
    · have hhead : name.head? ≠ some '/' := by
        intro e
        obtain ⟨rest, hrest⟩ : name <+: s.toList :=
          hname ▸ (splitTag_prefix_text _).trans (List.takeWhile_prefix _)
        refine h ?_
        rw [← hrest, List.head?_append, e]
        rfl
      rw [hsplit, firstSegment_trimBy hhead]
      exact hfirst
    · rw [String.ofList_eq_empty_iff.1 hrepo] at hhost
      exact absurd hhost (by decide)
  · exact .inr hhost

lemma parse_name_tagged (h : s.toList.head? ≠ some '/') (hp : (parse s).path ≠ "")
    (ht : isTag tag) :
    parse ((parse s).name ++ ":" ++ tag) = { parse s with tag := some tag } := by
  have htext := (isWritable_tagged h hp ht).parse_text
  rw [text, ← String.append_assoc] at htext
  exact htext

/-! ### Behind any text -/

/-- A text behind which a tag is read as a tag. -/
structure TakesTag (s : String) : Prop where
  digest : '@' ∉ s.toList
  tag : ':' ∉ lastSegment s.toList
  /-- It is not a host alone, whose port the tag would be. -/
  host : '/' ∈ s.toList ∨ isHost s.toList = false

lemma TakesTag.parse_tagged (h : TakesTag s) (ht : isTag tag) :
    parse (s ++ ":" ++ tag) = { parse s with tag := some tag } := by
  obtain ⟨hne, hslash, hcolon, hd⟩ := isTag_iff.1 ht
  have htext : (s ++ ":" ++ tag).toList = s.toList ++ ':' :: tag.toList := by simp
  have hdigest : '@' ∉ s.toList ++ ':' :: tag.toList := by simp [h.digest, hd]
  rw [parse_eq, parse_eq, htext, withoutDigest_eq_self hdigest, withoutDigest_eq_self h.digest,
    splitTag_append hslash hcolon h.host, splitTag_eq_self h.tag]
  simp [Option.filter, hne]

lemma count_trimBy {p : Char → Bool} {c : Char} (h : p c = false) (cs : List Char) :
    (trimBy p cs).count c = cs.count c := by
  have hdrop (cs : List Char) : (cs.dropWhile p).count c = cs.count c := by
    have htake : (cs.takeWhile p).count c = 0 := by
      refine List.count_eq_zero.2 fun hc => ?_
      have := List.all_eq_true.1 List.all_takeWhile _ hc
      rw [h] at this
      cases this
    have hcount := congrArg (List.count c) (List.takeWhile_append_dropWhile (p := p) (l := cs))
    rw [List.count_append, htake] at hcount
    omega
  rw [trimBy, trimEndBy, trimStartBy, List.count_reverse, hdrop, List.count_reverse, hdrop]

lemma count_join (repo path : String) : (join repo path).toList.count ':' =
    repo.toList.count ':' + path.toList.count ':' := by
  rw [join]
  split
  · rename_i hr
    simp [String.isEmpty_iff.1 hr]
  · split
    · rename_i hp
      simp [String.isEmpty_iff.1 hp]
    · simp

lemma count_name (s : String) :
    (parse s).name.toList.count ':' = (splitTag (withoutDigest s.toList)).1.count ':' := by
  obtain ⟨name, hname⟩ : ∃ name, name = (splitTag (withoutDigest s.toList)).1 := ⟨_, rfl⟩
  rw [Reference.name, count_join, parse_eq, ← hname]
  simp only [String.toList_ofList]
  rw [count_trimBy (by decide)]
  rcases splitHost_spec name with ⟨h, -⟩ | ⟨-, -, h | ⟨h, hnil⟩⟩
  · simp [h]
  · conv_rhs => rw [h]
    simp
  · rw [hnil, ← h]
    simp

/-- A tag behind a text is the tag that is read, and of the same repository, exactly if the text
takes tags; behind a digest nothing is read, so there it can only happen to be the same tag. -/
lemma parse_tagged_iff (ht : isTag tag) :
    (parse (s ++ ":" ++ tag)).name = (parse s).name ∧ (parse (s ++ ":" ++ tag)).tagOrLatest = tag ↔
      TakesTag s ∨ '@' ∈ s.toList ∧ (parse s).tagOrLatest = tag := by
  obtain ⟨-, hslash, hcolon, hd⟩ := isTag_iff.1 ht
  have htext : (s ++ ":" ++ tag).toList = s.toList ++ ':' :: tag.toList := by simp
  by_cases hs : '@' ∈ s.toList
  · have hcut : withoutDigest (s ++ ":" ++ tag).toList = withoutDigest s.toList := by
      obtain ⟨before, after, h, hb⟩ := List.eq_append_cons_of_mem hs
      rw [htext, h, List.append_assoc, withoutDigest_append hb, withoutDigest_append hb]
      simp [withoutDigest]
    have hparse : parse (s ++ ":" ++ tag) = parse s := by rw [parse_eq, parse_eq, hcut]
    rw [hparse]
    exact ⟨fun h => .inr ⟨hs, h.2⟩, fun h => ⟨rfl, (h.resolve_left fun h => h.digest hs).2⟩⟩
  · have hdigest : '@' ∉ (s ++ ":" ++ tag).toList := by simp [htext, hs, hd]
    simp only [hs, false_and, or_false]
    refine ⟨fun hparts => ?_, fun h => by rw [h.parse_tagged ht]; exact ⟨rfl, rfl⟩⟩
    obtain ⟨hname, -⟩ := hparts
    have hcount : (splitTag (s.toList ++ ':' :: tag.toList)).1.count ':' =
        (splitTag s.toList).1.count ':' := by
      have h : (parse (s ++ ":" ++ tag)).name.toList.count ':' =
          (parse s).name.toList.count ':' := by rw [hname]
      rwa [count_name, count_name, withoutDigest_eq_self hdigest, withoutDigest_eq_self hs,
        htext] at h
    have hle := (splitTag_prefix_text s.toList).sublist.count_le ':'
    by_cases hhost : '/' ∈ s.toList ∨ isHost s.toList = false
    · rw [splitTag_append hslash hcolon hhost] at hcount
      rcases splitTag_spec s.toList with hnone | ⟨own, hown, -⟩
      · rcases splitTag_cases s.toList with ⟨-, h | ⟨h, h'⟩⟩ | hlt
        · exact ⟨hs, h, hhost⟩
        · rw [h'] at hhost
          exact absurd hhost (by simp [h])
        · rw [hnone] at hlt
          exact absurd hlt (Nat.lt_irrefl _)
      · -- the text has a tag of its own
        have hlen := congrArg (List.count ':') hown
        rw [List.count_append, List.count_cons_self] at hlen
        dsimp only at hcount
        omega
    · -- all of it is taken for a host
      rw [not_or, Bool.not_eq_false] at hhost
      have hsplit : splitTag (s.toList ++ ':' :: tag.toList) =
          (s.toList ++ ':' :: tag.toList, none) := by
        rw [splitTag, cutLast_append hcolon]
        simp [isTagColon, hhost]
      rw [hsplit, List.count_append, List.count_cons_self] at hcount
      omega

end RegistrySync.Reference
