import Mathlib.Tactic.Lemma
import RegistrySync.Proofs.Image.Inventory
import RegistrySync.Proofs.Image.Reference
import RegistrySync.World.Depot

/-!
What the operations of a depot do to what stands under each entry.

A shelf is known by its `get?`. The entries that a daemon holds have names in normal spelling and
tags that can be written behind them, so that it shows them under references that mean them again.
-/

namespace RegistrySync

open Reference

/-! ### Entries -/

namespace Entry

/-- An entry that a reference to some repository can mean. -/
structure IsProper (e : Entry) : Prop where
  name : ∃ s, IsPlain s ∧ normalizeName s = e.name
  tag : isTag e.tag

/-- Whether a reference asks for an entry, by itself or with all of its repository. -/
def IsAskedBy (e : Entry) (reference : String) (allTags : Bool) : Prop :=
  e.name = (ofReference reference).name ∧ (allTags = true ∨ e.tag = (ofReference reference).tag)

instance (e : Entry) (reference : String) (allTags : Bool) :
    Decidable (e.IsAskedBy reference allTags) :=
  inferInstanceAs (Decidable (_ ∧ (_ ∨ _)))

def inRepository (repository tag : String) : Entry := ⟨normalizeName repository, tag⟩

variable {e : Entry} {s tag : String}

@[simp] lemma inRepository_name : (inRepository s tag).name = normalizeName s := by
  rw [inRepository]

@[simp] lemma inRepository_tag : (inRepository s tag).tag = tag := rfl

lemma eq_iff {e f : Entry} : e = f ↔ e.name = f.name ∧ e.tag = f.tag := by
  cases e
  cases f
  exact mk.injEq .. ▸ .rfl

lemma inRepository_eq (h : e.name = normalizeName s) : inRepository s e.tag = e :=
  eq_iff.2 ⟨inRepository_name.trans h.symm, inRepository_tag⟩

lemma ofReference_tagged (hs : IsPlain s) (ht : isTag tag) :
    ofReference (s ++ ":" ++ tag) = inRepository s tag := by
  have hname : Reference.name { parse s with tag := some tag } = s := hs.2
  rw [ofReference, hs.parse_tagged ht]
  simp only [hname, tagOrLatest, Option.getD_some, inRepository]

lemma isAskedBy_plain (hs : IsPlain s) : e.IsAskedBy s true ↔ e.name = normalizeName s := by
  simp [IsAskedBy, ofReference, hs.2]

lemma isAskedBy_tagged (hs : IsPlain s) (ht : isTag tag) :
    e.IsAskedBy (s ++ ":" ++ tag) false ↔ e.name = normalizeName s ∧ e.tag = tag := by
  simp [IsAskedBy, ofReference_tagged hs ht]

lemma isProper_iff : e.IsProper ↔
    IsPlain e.name ∧ normalizeName e.name = e.name ∧ isTag e.tag := by
  constructor
  · rintro ⟨⟨s, hs, hn⟩, ht⟩
    rw [← hn]
    exact ⟨hs.normalizeName, hs.normalizeName_idem, ht⟩
  · rintro ⟨hp, hn, ht⟩
    exact ⟨⟨e.name, hp, hn⟩, ht⟩

instance (e : Entry) : Decidable e.IsProper := decidable_of_iff' _ isProper_iff

namespace IsProper

lemma matchingTag_reference (h : e.IsProper) (wanted : Reference) :
    Summary.matchingTag wanted e.reference = some tag ↔
      e.name = normalizeName wanted.name ∧ e.tag = tag ∧ wanted.tag.all (· == tag) := by
  obtain ⟨hplain, hidem, ht⟩ := isProper_iff.1 h
  have hname : Reference.name { parse e.name with tag := some e.tag } = e.name := hplain.2
  rw [Summary.matchingTag, reference, hplain.parse_tagged ht]
  simp only [hname, hidem]
  by_cases hw : e.name = normalizeName wanted.name
  · rw [if_pos hw, Option.filter_some]
    by_cases htag : e.tag = tag
    · subst htag
      simp [hw]
    · simp [htag]
  · simp [hw]

end IsProper

end Entry

/-! ### Shelves -/

namespace Shelf

variable {s : Shelf} {e : Entry} {reference : String} {allTags : Bool} {id name : String}

lemma mem_entries : e ∈ s.entries ↔ (s.get? e).isSome := by
  rw [entries, List.mem_eraseDups, get?, List.lookup_isSome_iff]
  simp only [List.mem_map, beq_iff_eq, eq_comm (a := e)]

lemma eq_nil_iff : s = [] ↔ ∀ e, s.get? e = none := by
  constructor
  · rintro rfl e
    rfl
  · intro h
    rcases s with _ | ⟨⟨e, id⟩, s⟩
    · rfl
    · have := h e
      rw [get?, List.lookup_cons_self] at this
      cases this

lemma get?_putAll (s more : Shelf) (e : Entry) :
    (s.putAll more).get? e = (more.get? e).or (s.get? e) := by
  have happend : s.putAll more = more ++ s := by
    induction more with
    | nil => rfl
    | cons p more ih => exact congrArg (p :: ·) ih
  rw [happend, get?, List.lookup_append]
  rfl

lemma get?_filterMap (s : Shelf) (wanted : List Entry) (e : Entry) :
    get? (wanted.filterMap fun f => (s.get? f).map (f, ·)) e =
      if e ∈ wanted then s.get? e else none := by
  induction wanted with
  | nil => rfl
  | cons f wanted ih =>
    rw [List.filterMap_cons]
    rcases hf : s.get? f with _ | id
    · simp only [Option.map_none, ih, List.mem_cons]
      by_cases he : e = f
      · subst he
        simp [hf]
      · simp [he]
    · have hput := get?_put (wanted.filterMap fun f => (s.get? f).map (f, ·)) f e id
      simp only [Option.map_some, List.mem_cons]
      rw [← put, hput, ih]
      by_cases he : e = f
      · subst he
        simp [hf]
      · simp [he]

lemma get?_asked (s : Shelf) (reference : String) (allTags : Bool) (e : Entry) :
    (s.asked reference allTags).get? e =
      if e.IsAskedBy reference allTags then s.get? e else none := by
  rw [asked, get?_filterMap]
  cases allTags with
  | true =>
    simp only [if_true, List.mem_filter, mem_entries, beq_iff_eq, Entry.IsAskedBy, true_or,
      and_true]
    rcases s.get? e with _ | id <;> simp
  | false =>
    simp [Entry.IsAskedBy, Entry.eq_iff]

lemma asked_ne_nil : s.asked reference allTags ≠ [] ↔
    ∃ e : Entry, e.IsAskedBy reference allTags ∧ (s.get? e).isSome := by
  rw [Ne, eq_nil_iff, Classical.not_forall]
  refine exists_congr fun e => ?_
  rw [get?_asked]
  by_cases he : e.IsAskedBy reference allTags
  · simp [he, Option.isSome_iff_ne_none]
  · simp [he]

lemma mem_filter_entries :
    e ∈ s.entries.filter (fun e => s.get? e == some id) ↔ s.get? e = some id := by
  rw [List.mem_filter, mem_entries, beq_iff_eq]
  exact ⟨fun h => h.2, fun h => ⟨by rw [h]; rfl, h⟩⟩

lemma mem_inventory : (∃ summary ∈ s.inventory, summary.id = id ∧ name ∈ summary.names.getD []) ↔
    ∃ e : Entry, e.reference = name ∧ s.get? e = some id := by
  simp only [inventory, List.mem_filterMap, List.mem_eraseDups]
  constructor
  · rintro ⟨summary, ⟨held, -, hs⟩, rfl, hn⟩
    rcases hl : s.entries.filter (fun e => s.get? e == some held) with _ | ⟨f, fs⟩
    · rw [hl] at hs
      cases hs
    · rw [hl] at hs
      obtain rfl := Option.some.inj hs
      obtain ⟨e, he, rfl⟩ := List.mem_map.1 hn
      exact ⟨e, rfl, mem_filter_entries.1 (hl ▸ he)⟩
  · rintro ⟨e, rfl, he⟩
    have hheld : id ∈ s.map (·.2) := by
      obtain ⟨before, after, rfl, -⟩ := List.lookup_eq_some_iff.1 he
      simp
    refine ⟨⟨id, some ((s.entries.filter fun e => s.get? e == some id).map Entry.reference)⟩,
      ⟨id, hheld, ?_⟩, rfl, List.mem_map_of_mem (mem_filter_entries.2 he)⟩
    rcases hl : s.entries.filter (fun e => s.get? e == some id) with _ | ⟨f, fs⟩
    · have := mem_filter_entries.2 he
      rw [hl] at this
      cases this
    · rfl

lemma nodup_eraseDups (ids : List String) : ids.eraseDups.Nodup := by
  match ids with
  | [] => exact List.nodup_nil
  | id :: ids =>
    rw [List.eraseDups_cons, List.nodup_cons]
    exact ⟨by simp [List.mem_eraseDups], nodup_eraseDups _⟩
termination_by ids.length
decreasing_by exact Nat.lt_succ_of_le (List.length_filter_le _ _)

lemma nodup_inventory (s : Shelf) : (s.inventory.map (·.id)).Nodup := by
  have hids : (s.inventory.map (·.id)).Sublist (s.map (·.2)).eraseDups := by
    rw [inventory]
    induction (s.map (·.2)).eraseDups with
    | nil => exact List.Sublist.slnil
    | cons id ids ih =>
      rw [List.filterMap_cons]
      rcases s.entries.filter fun e => s.get? e == some id with _ | ⟨e, es⟩
      · exact ih.cons _
      · exact ih.cons_cons _
  exact hids.nodup (nodup_eraseDups _)

end Shelf

/-! ### The depot -/

namespace Depot

/-- All that is held near or far is proper. -/
def IsProper (d : Depot) : Prop := ∀ e ∈ d.near.entries ++ d.far.entries, e.IsProper

instance (d : Depot) : Decidable d.IsProper :=
  inferInstanceAs (Decidable (∀ e ∈ d.near.entries ++ d.far.entries, e.IsProper))

variable {d : Depot} {reference : String} {allTags : Bool} {e : Entry} {id tag : String}

lemma IsProper.near (h : d.IsProper) (he : d.near.get? e = some id) : e.IsProper :=
  h e (List.mem_append_left _ (Shelf.mem_entries.2 (by rw [he]; rfl)))

lemma IsProper.isTag (h : d.IsProper) (he : d.near.get? (.inRepository reference tag) = some id) :
    isTag tag := by
  have ht := (h.near he).tag
  rwa [Entry.inRepository_tag] at ht

lemma isProper_iff : d.IsProper ↔
    ∀ e id, d.near.get? e = some id ∨ d.far.get? e = some id → e.IsProper := by
  simp only [IsProper, List.mem_append, Shelf.mem_entries, Option.isSome_iff_exists, ← exists_or,
    forall_exists_index]

lemma pull_cases (reference : String) (allTags : Bool) (d : Depot) :
    d.far.asked reference allTags = [] ∧ d.pull reference allTags = (.error (absent reference), d) ∨
    d.far.asked reference allTags ≠ [] ∧ ∃ near,
      d.pull reference allTags = (.ok (), { d with near }) ∧
      ∀ e : Entry, near.get? e = if e.IsAskedBy reference allTags then
        (d.far.get? e).or (d.near.get? e) else d.near.get? e := by
  rw [pull]
  rcases h : d.far.asked reference allTags with _ | ⟨p, found⟩
  · exact .inl ⟨rfl, rfl⟩
  · refine .inr ⟨nofun, _, rfl, fun e => ?_⟩
    rw [← h, Shelf.get?_putAll, Shelf.get?_asked]
    split <;> rfl

lemma near_push : (d.push reference allTags).near = d.near := rfl

lemma far_push (e : Entry) : (d.push reference allTags).far.get? e =
    if e.IsAskedBy reference allTags then (d.near.get? e).or (d.far.get? e) else d.far.get? e := by
  rw [push, Shelf.get?_putAll, Shelf.get?_asked]
  split <;> rfl

def tagAll (d : Depot) (names : List (String × String)) : Depot :=
  names.foldl (fun d name => d.tag name.1 name.2) d

lemma far_tagAll (names : List (String × String)) : (d.tagAll names).far = d.far := by
  induction names generalizing d with
  | nil => rfl
  | cons name names ih => exact ih

lemma near_tagAll (names : List (String × String)) (e : Entry) :
    (∃ name ∈ names, .ofReference name.2 = e ∧ (d.tagAll names).near.get? e = some name.1) ∨
    (∀ name ∈ names, .ofReference name.2 ≠ e) ∧ (d.tagAll names).near.get? e = d.near.get? e := by
  induction names generalizing d with
  | nil => exact .inr ⟨nofun, rfl⟩
  | cons name names ih =>
    rcases ih (d := d.tag name.1 name.2) with ⟨n, hn, he, hid⟩ | ⟨hno, hsame⟩
    · exact .inl ⟨n, List.mem_cons_of_mem _ hn, he, hid⟩
    · have hput : (d.tag name.1 name.2).near.get? e =
          if e = .ofReference name.2 then some name.1 else d.near.get? e := Shelf.get?_put ..
      rw [tagAll, List.foldl_cons, ← tagAll, hsame, hput]
      by_cases he : e = .ofReference name.2
      · exact .inl ⟨name, List.mem_cons_self, he.symm, if_pos he⟩
      · refine .inr ⟨fun n hn => ?_, if_neg he⟩
        rcases List.mem_cons.1 hn with rfl | hn
        · exact Ne.symm he
        · exact hno n hn

lemma carry_list (h : d.IsProper) : Image.Carry (d.list reference) id tag ↔
    d.near.get? ⟨normalizeName (parse reference).name, tag⟩ = some id ∧
      (parse reference).tag.all (· == tag) := by
  rw [list, Image.carry_matching]
  generalize hname : normalizeName (parse reference).name = name
  constructor
  · rintro ⟨summary, hs, hid, shown, hn, ht⟩
    obtain ⟨e, rfl, he⟩ := Shelf.mem_inventory.1 ⟨summary, hs, hid, hn⟩
    obtain ⟨heq, rfl, hall⟩ := ((h.near he).matchingTag_reference _).1 ht
    rw [← hname, ← heq]
    exact ⟨he, hall⟩
  · rintro ⟨he, hall⟩
    have hmatch := ((h.near he).matchingTag_reference _).2 ⟨hname.symm, rfl, hall⟩
    obtain ⟨summary, hs, hid, hn⟩ := Shelf.mem_inventory.2 ⟨⟨name, tag⟩, rfl, he⟩
    exact ⟨summary, hs, hid, _, hn, hmatch⟩

end Depot

end RegistrySync
