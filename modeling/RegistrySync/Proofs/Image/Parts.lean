import RegistrySync.Proofs.Image.Reference

/-!
The parts that a text is read as.

Whatever the text, its parts are shaped as parts are: the host is one segment that looks like a
host, the path has no slash at its ends, and the tag can be written behind a name. Parts that do not
run into each other are read back from the text they are written as, whatever digest stands behind
it.
-/

namespace RegistrySync.Reference

open Text

variable {s digest : String} {text : List Char} {r : Reference}

/-! ### Parts of any text -/

lemma digest_withoutDigest (text : List Char) : '@' ∉ withoutDigest text := by
  intro h
  have hall := List.all_eq_true.1 List.all_takeWhile _ h
  simp at hall

lemma splitTag_spec (text : List Char) :
    splitTag text = (text, none) ∨ ∃ tag, text = (splitTag text).1 ++ ':' :: tag ∧
      splitTag text = ((splitTag text).1, some tag) ∧ ':' ∉ tag ∧ '/' ∉ tag := by
  rw [splitTag]
  rcases hc : cutLast ':' text with _ | ⟨before, after⟩
  · exact .inl rfl
  · obtain ⟨htext, hcolon⟩ := cutLast_eq_some hc
    dsimp only
    split
    · rename_i htag
      have hslash : '/' ∉ after := by
        simp only [isTagColon, Bool.and_eq_true, Bool.not_eq_true', List.contains_eq_mem,
          decide_eq_false_iff_not] at htag
        exact htag.1
      exact .inr ⟨after, htext, rfl, hcolon, hslash⟩
    · exact .inl rfl

lemma splitHost_spec (name : List Char) :
    splitHost name = ([], name) ∧ isHost (firstSegment name) = false ∨
      isHost (splitHost name).1 = true ∧ '/' ∉ (splitHost name).1 ∧
        (name = (splitHost name).1 ++ '/' :: (splitHost name).2 ∨
          name = (splitHost name).1 ∧ (splitHost name).2 = []) := by
  rw [splitHost]
  rcases hc : cutFirst '/' name with _ | ⟨first, rest⟩
  · have hslash := cutFirst_eq_none.1 hc
    rw [firstSegment_eq_self hslash]
    by_cases hh : isHost name = true
    · exact .inr (by simp [hh, hslash])
    · exact .inl (by simp [hh])
  · obtain ⟨rfl, hslash⟩ := cutFirst_eq_some hc
    rw [firstSegment_append hslash]
    by_cases hh : isHost first = true
    · exact .inr (by simp [hh, hslash])
    · exact .inl (by simp [hh])

lemma isShaped_parse (s : String) : (parse s).IsShaped := by
  obtain ⟨name, hname⟩ : ∃ name, name = (splitTag (withoutDigest s.toList)).1 := ⟨_, rfl⟩
  have hdigest := digest_withoutDigest s.toList
  -- the name is a part of what stands before the digest
  have hd : '@' ∉ name := by
    rcases splitTag_spec (withoutDigest s.toList) with h | ⟨tag, h, -⟩
    · rwa [hname, h]
    · rw [h, ← hname] at hdigest
      exact fun hm => hdigest (List.mem_append_left _ hm)
  have hsub : (splitHost name).1 ⊆ name ∧ (splitHost name).2 ⊆ name := by
    rcases splitHost_spec name with ⟨h, -⟩ | ⟨-, -, h | ⟨h, hnil⟩⟩
    · simp [h]
    · constructor
      · intro c hc
        rw [h]
        exact List.mem_append_left _ hc
      · intro c hc
        rw [h]
        exact List.mem_append_right _ (List.mem_cons_of_mem _ hc)
    · rw [hnil, ← h]
      simp
  rw [parse_eq, ← hname]
  refine ⟨?_, ⟨?_, ?_, ?_⟩, ?_⟩
  · rcases splitHost_spec name with ⟨h, -⟩ | ⟨hh, hslash, -⟩
    · exact .inl (by simp [h])
    · right
      simp only [String.toList_ofList]
      exact ⟨hh, hslash, fun hm => hd (hsub.1 hm)⟩
  · simp only [String.toList_ofList]
    exact fun hm => hd (hsub.2 (trimBy_sublist.subset hm))
  · simp only [String.toList_ofList]
    exact fun hm => absurd (head?_trimBy hm) (by decide)
  · simp only [String.toList_ofList]
    exact fun hm => absurd (getLast?_trimBy hm) (by decide)
  · intro t ht
    rcases splitTag_spec (withoutDigest s.toList) with h | ⟨tag, h, htag, hcolon, hslash⟩
    · rw [h] at ht
      cases ht
    · rw [htag] at ht
      simp only [Option.map_eq_some_iff, Option.filter_eq_some_iff, Option.mem_def,
        Option.some.injEq] at ht
      obtain ⟨_, ⟨rfl, hne⟩, rfl⟩ := ht
      rw [h] at hdigest
      simp only [List.mem_append, List.mem_cons, not_or] at hdigest
      rw [isTag_iff, String.toList_ofList]
      exact ⟨by simpa using hne, hslash, hcolon, hdigest.2.2⟩

/-! ### Parts that are written -/

lemma parse_digest (h : '@' ∉ s.toList) : parse (s ++ "@" ++ digest) = parse s := by
  have hcut : withoutDigest (s ++ "@" ++ digest).toList = withoutDigest s.toList := by
    rw [String.append_assoc, String.toList_append, withoutDigest_append h, withoutDigest_eq_self h]
    simp [withoutDigest]
  rw [parse_eq, parse_eq, hcut]

/-- **Reading inverts writing.** Every text is read as shaped parts, and parts that do not run into
each other are read back from their text, with or without a digest behind it. -/
theorem parse_inverts_text : (∀ s, (parse s).IsShaped) ∧
    ∀ r : Reference, r.IsWritable →
      parse r.text = r ∧ ∀ digest, parse (r.text ++ "@" ++ digest) = r := by
  refine ⟨isShaped_parse, fun r hr => ⟨hr.parse_text, fun digest => ?_⟩⟩
  rw [parse_digest hr.digest_text, hr.parse_text]

/-- A port, a colon within the path, no tag, and a digest that has colons and slashes. -/
theorem parse_inverts_text_port :
    let r : Reference := ⟨"localhost:5000", "mirror/a:b/c", none⟩
    r.IsWritable ∧ parse "localhost:5000/mirror/a:b/c@sha256:0/1" = r := by
  intro r
  have hr : r.IsWritable :=
    ⟨.inr (by decide), by decide, by decide, nofun, fun _ => by decide⟩
  exact ⟨hr, (parse_inverts_text.2 r hr).2 "sha256:0/1"⟩

end RegistrySync.Reference
