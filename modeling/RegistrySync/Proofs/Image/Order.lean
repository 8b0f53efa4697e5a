import Mathlib.Data.List.Sort
import RegistrySync.Proofs.Image.Inventory

/-!
The order of images and of their tags.

Tags stand in increasing order and images in the order of their ids, whatever order they come in.
A list in strict order is known by its members, so the images of an inventory in which no id stands
twice do not depend on how the inventory is told.
-/

namespace RegistrySync

variable {wanted : Reference} {inventory other : List Summary} {images : List Image}
  {i : Image} {s s' : Summary} {x : String} {as bs : List String}

/-! ### Tags -/

lemma pairwise_insertUnique (h : as.Pairwise (· < ·)) : (insertUnique x as).Pairwise (· < ·) := by
  induction as with
  | nil => exact List.pairwise_singleton _ _
  | cons a as ih =>
    obtain ⟨hhead, htail⟩ := List.pairwise_cons.1 h
    rw [insertUnique]
    split
    · rename_i hx
      refine List.pairwise_cons.2 ⟨fun y hy => ?_, h⟩
      rcases List.mem_cons.1 hy with rfl | hy
      · exact hx
      · exact String.lt_trans hx (hhead y hy)
    · rename_i hx
      split
      · exact h
      · rename_i hne
        have hax : a < x := Decidable.byContradiction fun hnot =>
          hne (String.le_antisymm (String.not_lt.1 hnot) (String.not_lt.1 hx))
        refine List.pairwise_cons.2 ⟨fun y hy => ?_, ih htail⟩
        rcases mem_insertUnique.1 hy with rfl | hy
        · exact hax
        · exact hhead y hy

lemma pairwise_sortUnique (as : List String) : (sortUnique as).Pairwise (· < ·) := by
  induction as with
  | nil => exact List.Pairwise.nil
  | cons a as ih => exact pairwise_insertUnique ih

lemma eq_of_pairwise_lt {α : Type} {f : α → String} {xs ys : List α}
    (hx : xs.Pairwise (f · < f ·)) (hy : ys.Pairwise (f · < f ·)) (h : ∀ a, a ∈ xs ↔ a ∈ ys) :
    xs = ys := by
  have hirrefl : Std.Irrefl fun a b : α => f a < f b := ⟨fun a => String.lt_irrefl (f a)⟩
  have hanti : Std.Antisymm fun a b : α => f a < f b :=
    ⟨fun _ _ hab hba => absurd hba (String.lt_asymm hab)⟩
  exact hx.eq_of_mem_iff hy h

lemma sortUnique_congr (h : ∀ x, x ∈ as ↔ x ∈ bs) : sortUnique as = sortUnique bs := by
  refine eq_of_pairwise_lt (f := id) (pairwise_sortUnique as) (pairwise_sortUnique bs) fun x => ?_
  rw [mem_sortUnique, mem_sortUnique, h]

namespace Summary

/-- The same image under the same names, in whatever order and however often they are told. -/
structure IsAlike (s s' : Summary) : Prop where
  id : s.id = s'.id
  names : ∀ name, name ∈ s.names.getD [] ↔ name ∈ s'.names.getD []

lemma IsAlike.image?_eq (h : s.IsAlike s') : s.image? wanted = s'.image? wanted := by
  have htags : ∀ tag, tag ∈ (s.names.getD []).filterMap (matchingTag wanted) ↔
      tag ∈ (s'.names.getD []).filterMap (matchingTag wanted) := by
    intro tag
    simp only [List.mem_filterMap, h.names]
  rw [image?, image?]
  rcases hm : (s.names.getD []).filterMap (matchingTag wanted) with _ | ⟨t, ts⟩
  · have hnil : (s'.names.getD []).filterMap (matchingTag wanted) = [] := by
      rw [hm] at htags
      exact List.eq_nil_iff_forall_not_mem.2 fun tag ht => by simpa using (htags tag).2 ht
    rw [hnil]
  · rcases hm' : (s'.names.getD []).filterMap (matchingTag wanted) with _ | ⟨t', ts'⟩
    · rw [hm, hm'] at htags
      exact absurd ((htags t).1 List.mem_cons_self) List.not_mem_nil
    · rw [hm, hm'] at htags
      simp only [Image.ofTags, h.id, sortUnique_congr htags]

lemma image?_parts (h : s.image? wanted = some i) :
    i.id = s.id ∧ i.repo = wanted.repo ∧ i.path = wanted.path ∧ i.tags ≠ [] ∧
      i.tags.Pairwise (· < ·) := by
  rw [image?] at h
  split at h
  · cases h
  · rename_i tags hne
    cases h
    refine ⟨rfl, rfl, rfl, fun hnil => hne ?_, pairwise_sortUnique _⟩
    have hsort : sortUnique ((s.names.getD []).filterMap (matchingTag wanted)) = [] := hnil
    refine List.eq_nil_iff_forall_not_mem.2 fun tag ht => ?_
    rw [← mem_sortUnique, hsort] at ht
    exact absurd ht List.not_mem_nil

end Summary

namespace Image

/-! ### Images -/

lemma insertById_perm (i : Image) (images : List Image) :
    (insertById i images).Perm (i :: images) := by
  induction images with
  | nil => exact .refl _
  | cons j images ih =>
    rw [insertById]
    split
    · exact .refl _
    · exact (ih.cons j).trans (.swap i j images)

lemma foldl_insertById_perm (done : List Image) :
    (images.foldl (fun done i => insertById i done) done).Perm (done ++ images) := by
  induction images generalizing done with
  | nil => simp
  | cons i images ih =>
    have hstep := (insertById_perm i done).append_right images
    exact (ih _).trans (hstep.trans List.perm_middle.symm)

lemma sortById_perm (images : List Image) : (sortById images).Perm images :=
  foldl_insertById_perm []

lemma pairwise_insertById (h : images.Pairwise (·.id ≤ ·.id)) :
    (insertById i images).Pairwise (·.id ≤ ·.id) := by
  induction images with
  | nil => exact List.pairwise_singleton _ _
  | cons j images ih =>
    obtain ⟨hhead, htail⟩ := List.pairwise_cons.1 h
    rw [insertById]
    split
    · rename_i hi
      have hle : i.id ≤ j.id := String.not_lt.1 (String.lt_asymm hi)
      refine List.pairwise_cons.2 ⟨fun k hk => ?_, h⟩
      rcases List.mem_cons.1 hk with rfl | hk
      · exact hle
      · exact String.le_trans hle (hhead k hk)
    · rename_i hi
      refine List.pairwise_cons.2 ⟨fun k hk => ?_, ih htail⟩
      rcases mem_insertById.1 hk with rfl | hk
      · exact String.not_lt.1 hi
      · exact hhead k hk

lemma pairwise_foldl_insertById (done : List Image) (h : done.Pairwise (·.id ≤ ·.id)) :
    (images.foldl (fun done i => insertById i done) done).Pairwise (·.id ≤ ·.id) := by
  induction images generalizing done with
  | nil => exact h
  | cons i images ih => exact ih _ (pairwise_insertById h)

lemma pairwise_matching : (matching wanted inventory).Pairwise (·.id ≤ ·.id) :=
  pairwise_foldl_insertById [] List.Pairwise.nil

lemma mem_matching : i ∈ matching wanted inventory ↔ ∃ s ∈ inventory, s.image? wanted = some i := by
  rw [matching, mem_sortById, List.mem_filterMap]

lemma nodup_matching (h : (inventory.map (·.id)).Nodup) :
    ((matching wanted inventory).map (·.id)).Nodup := by
  have hperm := (sortById_perm (inventory.filterMap (Summary.image? wanted))).map (·.id)
  refine hperm.nodup_iff.2 (List.Nodup.sublist ?_ h)
  clear h hperm
  induction inventory with
  | nil => exact List.Sublist.slnil
  | cons s inventory ih =>
    rw [List.filterMap_cons]
    rcases hs : s.image? wanted with _ | i
    · exact ih.cons _
    · rw [List.map_cons, List.map_cons, (Summary.image?_parts hs).1]
      exact ih.cons_cons _

lemma pairwise_lt_matching (h : (inventory.map (·.id)).Nodup) :
    (matching wanted inventory).Pairwise (·.id < ·.id) := by
  have hnodup : ((matching wanted inventory).map (·.id)).Nodup := nodup_matching h
  refine (pairwise_matching.and (List.pairwise_map.1 hnodup)).imp ?_
  rintro i j ⟨hle, hne⟩
  exact Decidable.byContradiction fun hnot => hne (String.le_antisymm hle (String.not_lt.1 hnot))

lemma mem_tags_iff_carry {tag : String} (h : (inventory.map (·.id)).Nodup)
    (hi : i ∈ matching wanted inventory) :
    tag ∈ i.tags ↔ Carry (matching wanted inventory) i.id tag := by
  refine ⟨fun ht => ⟨i, hi, rfl, ht⟩, ?_⟩
  rintro ⟨j, hj, hid, ht⟩
  obtain rfl : j = i := List.inj_on_of_nodup_map (nodup_matching h) hj hi hid
  exact ht

lemma mem_matching_of_carry (h : (inventory.map (·.id)).Nodup) (h' : (other.map (·.id)).Nodup)
    (hcarry : ∀ id tag, Carry (matching wanted inventory) id tag ↔
      Carry (matching wanted other) id tag) (hi : i ∈ matching wanted inventory) :
    i ∈ matching wanted other := by
  obtain ⟨s, -, hs⟩ := mem_matching.1 hi
  obtain ⟨-, hrepo, hpath, hne, hsorted⟩ := Summary.image?_parts hs
  obtain ⟨tag, htag⟩ := List.exists_mem_of_ne_nil _ hne
  obtain ⟨j, hj, hid, -⟩ := (hcarry i.id tag).1 ⟨i, hi, rfl, htag⟩
  obtain ⟨s', -, hs'⟩ := mem_matching.1 hj
  obtain ⟨-, hrepo', hpath', -, hsorted'⟩ := Summary.image?_parts hs'
  have htags : i.tags = j.tags := by
    refine eq_of_pairwise_lt (f := fun tag => tag) hsorted hsorted' fun tag => ?_
    rw [mem_tags_iff_carry h hi, mem_tags_iff_carry h' hj, hid, hcarry]
  have hij : i = j := by
    rcases i with ⟨_, _, _, _⟩
    rcases j with ⟨_, _, _, _⟩
    exact mk.injEq .. ▸ ⟨hid.symm, hrepo.trans hrepo'.symm, hpath.trans hpath'.symm, htags⟩
  rw [hij]
  exact hj

lemma matching_eq_of_carry (h : (inventory.map (·.id)).Nodup) (h' : (other.map (·.id)).Nodup)
    (hcarry : ∀ id tag, Carry (matching wanted inventory) id tag ↔
      Carry (matching wanted other) id tag) :
    matching wanted inventory = matching wanted other :=
  eq_of_pairwise_lt (pairwise_lt_matching h) (pairwise_lt_matching h') fun _ =>
    ⟨mem_matching_of_carry h h' hcarry,
      mem_matching_of_carry h' h fun id tag => (hcarry id tag).symm⟩

/-- What is listed does not depend on the order in which the images and their names are told. -/
lemma matching_congr {between : List Summary} (h : (inventory.map (·.id)).Nodup)
    (hperm : inventory.Perm between) (halike : List.Forall₂ Summary.IsAlike between other) :
    matching wanted other = matching wanted inventory := by
  have hids : between.map (·.id) = other.map (·.id) := by
    clear hperm
    induction halike with
    | nil => rfl
    | cons hs _ ih => rw [List.map_cons, List.map_cons, hs.id, ih]
  have hother : (other.map (·.id)).Nodup := hids ▸ (hperm.map (·.id)).nodup_iff.1 h
  have hfilter : between.filterMap (Summary.image? wanted) =
      other.filterMap (Summary.image? wanted) := by
    clear hperm hids hother
    induction halike with
    | nil => rfl
    | cons hs _ ih => rw [List.filterMap_cons, List.filterMap_cons, hs.image?_eq, ih]
  refine eq_of_pairwise_lt (pairwise_lt_matching hother) (pairwise_lt_matching h) fun i => ?_
  rw [matching, matching, mem_sortById, mem_sortById, ← hfilter]
  exact (hperm.filterMap _).mem_iff.symm

end Image

end RegistrySync
