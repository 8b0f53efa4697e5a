import RegistrySync.Image.Inventory
import RegistrySync.Proofs.Image.Parts

/-!
Which images a reference means.

Sorting the images loses none, and an image carries a tag exactly if the daemon shows a name for it
that the reference matches with this tag.
-/

namespace RegistrySync

variable {wanted : Reference} {inventory : List Summary} {images : List Image}
  {i j : Image} {s : Summary} {id tag : String}

namespace Summary

lemma image?_eq_some (h : s.image? wanted = some i) :
    i.id = s.id ∧ ∀ tag, tag ∈ i.tags ↔
      ∃ name ∈ s.names.getD [], matchingTag wanted name = some tag := by
  rw [image?] at h
  rcases hm : (s.names.getD []).filterMap (matchingTag wanted) with _ | ⟨t, ts⟩
  · rw [hm] at h
    cases h
  · rw [hm] at h
    obtain rfl := Option.some.inj h
    refine ⟨rfl, fun tag => ?_⟩
    rw [Image.ofTags, mem_sortUnique, ← hm, List.mem_filterMap]

lemma image?_isSome {name : String} (hn : name ∈ s.names.getD [])
    (ht : matchingTag wanted name = some tag) : ∃ i, s.image? wanted = some i := by
  have hm : tag ∈ (s.names.getD []).filterMap (matchingTag wanted) :=
    List.mem_filterMap.2 ⟨name, hn, ht⟩
  rw [image?]
  rcases hl : (s.names.getD []).filterMap (matchingTag wanted) with _ | ⟨t, ts⟩
  · rw [hl] at hm
    cases hm
  · exact ⟨_, rfl⟩

end Summary

namespace Image

lemma mem_insertById : j ∈ insertById i images ↔ j = i ∨ j ∈ images := by
  induction images with
  | nil => simp [insertById]
  | cons k images ih =>
    rw [insertById]
    split
    · exact List.mem_cons
    · rw [List.mem_cons, ih, List.mem_cons]
      exact or_left_comm

lemma mem_foldl_insertById (done : List Image) :
    i ∈ images.foldl (fun done i => insertById i done) done ↔ i ∈ done ∨ i ∈ images := by
  induction images generalizing done with
  | nil => simp
  | cons k images ih =>
    rw [List.foldl_cons, ih, mem_insertById, List.mem_cons, or_assoc, or_left_comm]

lemma mem_sortById : i ∈ sortById images ↔ i ∈ images := by
  rw [sortById, mem_foldl_insertById]
  simp

/-- Some image of the list has this id and carries this tag. -/
def Carry (images : List Image) (id tag : String) : Prop := ∃ i ∈ images, i.id = id ∧ tag ∈ i.tags

lemma carry_flatMap {α : Type} {f : α → List Image} {as : List α} :
    Carry (as.flatMap f) id tag ↔ ∃ a ∈ as, Carry (f a) id tag := by
  simp only [Carry, List.mem_flatMap]
  constructor
  · rintro ⟨i, ⟨a, ha, hi⟩, h⟩
    exact ⟨a, ha, i, hi, h⟩
  · rintro ⟨a, ha, i, hi, h⟩
    exact ⟨i, ⟨a, ha, hi⟩, h⟩

lemma carry_matching : Carry (matching wanted inventory) id tag ↔
    ∃ s ∈ inventory, s.id = id ∧ ∃ name ∈ s.names.getD [],
      Summary.matchingTag wanted name = some tag := by
  simp only [Carry, matching, mem_sortById, List.mem_filterMap]
  constructor
  · rintro ⟨i, ⟨s, hs, hi⟩, rfl, ht⟩
    obtain ⟨hid, htags⟩ := Summary.image?_eq_some hi
    exact ⟨s, hs, hid.symm, (htags tag).1 ht⟩
  · rintro ⟨s, hs, rfl, name, hn, ht⟩
    obtain ⟨i, hi⟩ := Summary.image?_isSome hn ht
    obtain ⟨hid, htags⟩ := Summary.image?_eq_some hi
    exact ⟨i, ⟨s, hs, hi⟩, hid, (htags tag).2 ⟨name, hn, ht⟩⟩

lemma isTag_matching (hi : i ∈ matching wanted inventory) (ht : tag ∈ i.tags) :
    Reference.isTag tag := by
  rw [matching, mem_sortById, List.mem_filterMap] at hi
  obtain ⟨s, -, hi⟩ := hi
  obtain ⟨name, -, hname⟩ := ((Summary.image?_eq_some hi).2 tag).1 ht
  rw [Summary.matchingTag] at hname
  split at hname
  · exact (Reference.isShaped_parse name).tag tag (Option.eq_some_of_filter_eq_some hname)
  · cases hname

end Image

end RegistrySync
