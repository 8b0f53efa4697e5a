import RegistrySync.Proofs.Json.Sorted
import RegistrySync.Proofs.Schema.Written

/-!
The order of members does not matter.

Members with different names fill different places, so a record is read the same in whatever order
its members stand. What is written can therefore also be read through a plain value.
-/

namespace RegistrySync

open Json (sortedItems sortedMembers)

variable {α β : Type} {name name' : String} {j j' : Json} {items : List Json}
  {ms ms' : List (String × Json)}

/-! ### Members in another order -/

lemma Fields.ofMember_comm : {α : Type} → (fs : Fields α) → name ≠ name' →
    {before mid after : fs.Slots} → fs.ofMember name j before = .ok mid →
    fs.ofMember name' j' mid = .ok after →
    ∃ mid', fs.ofMember name' j' before = .ok mid' ∧ fs.ofMember name j mid' = .ok after
  | _, .nil, _, before, _, _, h, h' => ⟨before, h ▸ h', h' ▸ h⟩
  | _, .cons f s rest, hne, before, mid, after, h, h' => by
    rcases ofMember_cons_iff.1 h with ⟨hname, hfree, a, ha, rfl⟩ | ⟨hname, more, hmore, rfl⟩
    · rcases ofMember_cons_iff.1 h' with ⟨hname', -⟩ | ⟨hname', more', hmore', rfl⟩
      · exact absurd (hname.symm.trans hname') hne
      · exact ⟨_, ofMember_cons_iff.2 (.inr ⟨hname', more', hmore', rfl⟩),
          ofMember_cons_iff.2 (.inl ⟨hname, hfree, a, ha, rfl⟩)⟩
    · rcases ofMember_cons_iff.1 h' with ⟨hname', hfree', a, ha, rfl⟩ | ⟨hname', more', hmore', rfl⟩
      · exact ⟨_, ofMember_cons_iff.2 (.inl ⟨hname', hfree', a, ha, rfl⟩),
          ofMember_cons_iff.2 (.inr ⟨hname, more, hmore, rfl⟩)⟩
      · obtain ⟨mid', hfirst, hsecond⟩ := ofMember_comm rest hne hmore hmore'
        exact ⟨_, ofMember_cons_iff.2 (.inr ⟨hname', mid', hfirst, rfl⟩),
          ofMember_cons_iff.2 (.inr ⟨hname, more', hsecond, rfl⟩)⟩

lemma Fields.fill_perm {fs : Fields α} (hperm : ms.Perm ms') (hnames : (ms.map Prod.fst).Nodup)
    {before after : fs.Slots} (h : fs.fill ms before = .ok after) :
    fs.fill ms' before = .ok after := by
  induction hperm generalizing before with
  | nil => exact h
  | cons m hperm ih =>
    rw [List.map_cons, List.nodup_cons] at hnames
    rw [fill_cons] at h ⊢
    obtain ⟨mid, hmid, h⟩ := bind_eq_ok.1 h
    exact bind_eq_ok.2 ⟨mid, hmid, ih hnames.2 h⟩
  | swap m m' ms =>
    rw [List.map_cons, List.map_cons, List.nodup_cons, List.mem_cons, not_or] at hnames
    rw [fill_cons] at h ⊢
    obtain ⟨mid, hmid, h⟩ := bind_eq_ok.1 h
    rw [fill_cons] at h
    obtain ⟨last, hlast, h⟩ := bind_eq_ok.1 h
    obtain ⟨mid', hfirst, hsecond⟩ := ofMember_comm fs hnames.1.1 hmid hlast
    refine bind_eq_ok.2 ⟨mid', hfirst, ?_⟩
    rw [fill_cons]
    exact bind_eq_ok.2 ⟨last, hsecond, h⟩
  | trans hperm _ ih ih' =>
    exact ih' ((hperm.map Prod.fst).nodup_iff.1 hnames) (ih hnames h)

/-! ### Values with sorted members -/

lemma Json.found_sorted (j : Json) : j.sorted.found = j.found := by
  cases j <;> rfl

lemma Json.sorted_ne_null (h : j ≠ .null) : j.sorted ≠ .null := by
  cases j with
  | null => exact absurd rfl h
  | flag b | number n | text s | list items | record members => nofun

lemma Json.mapM_sortedItems {s : Schema α} (hs : ∀ j ∈ items, ∀ a, s.ofJson j = .ok a →
    s.ofJson j.sorted = .ok a) {as : List α} (h : items.mapM s.ofJson = .ok as) :
    (sortedItems items).mapM s.ofJson = .ok as := by
  induction items generalizing as with
  | nil => exact h
  | cons j items ih =>
    obtain ⟨hj, hitems⟩ := List.forall_mem_cons.1 hs
    rw [List.mapM_cons] at h
    obtain ⟨a, ha, h⟩ := bind_eq_ok.1 h
    obtain ⟨rest, hrest, h⟩ := bind_eq_ok.1 h
    rw [sortedItems, List.mapM_cons, hj a ha, ih hitems hrest]
    exact h

lemma Json.fill_sortedMembers {fs : Fields α} (hfs : ∀ m ∈ ms, ∀ slots after,
    fs.ofMember m.1 m.2 slots = .ok after → fs.ofMember m.1 m.2.sorted slots = .ok after)
    {before after : fs.Slots} (h : fs.fill ms before = .ok after) :
    fs.fill (sortedMembers ms) before = .ok after := by
  induction ms generalizing before with
  | nil => exact h
  | cons m ms ih =>
    obtain ⟨hm, hms⟩ := List.forall_mem_cons.1 hfs
    rw [Fields.fill_cons] at h
    obtain ⟨mid, hmid, h⟩ := bind_eq_ok.1 h
    rw [sortedMembers, Fields.fill_cons]
    exact bind_eq_ok.2 ⟨mid, hm _ _ hmid, ih hms h⟩

mutual

theorem Schema.ofJson_sorted : {α : Type} → (s : Schema α) → {depth : Nat} → {j : Json} →
    j.IsProper depth → (a : α) → s.ofJson j = .ok a → s.ofJson j.sorted = .ok a
  | _, .text, _, j, _, a, h => by
    cases j with
    | text t => exact h
    | null | flag b | number n | list items | record members => cases h
  | _, .flag, _, j, _, a, h => by
    cases j with
    | flag b => exact h
    | null | text t | number n | list items | record members => cases h
  | _, .word32, _, j, _, a, h => by
    rwa [Schema.ofJson, Json.found_sorted, ← Schema.ofJson]
  | _, .word64, _, j, _, a, h => by
    rwa [Schema.ofJson, Json.found_sorted, ← Schema.ofJson]
  | _, .optional s, _, j, hproper, o, h => by
    by_cases hj : j = .null
    · subst hj
      exact h
    · rw [Schema.ofJson] at h
      · obtain ⟨a, ha, rfl⟩ := map_eq_ok h
        rw [Schema.ofJson, Schema.ofJson_sorted s hproper a ha]
        · rfl
        · exact Json.sorted_ne_null hj
      · exact hj
  | _, .list s, _, j, hproper, as, h => by
    cases hproper with
    | list hitems =>
      exact Json.mapM_sortedItems (fun j hj => Schema.ofJson_sorted s (hitems j hj)) h
    | null | flag b | number n | text t | record hnames hms => cases h
  | _, .record name fields make parts, _, j, hproper, b, h => by
    cases hproper with
    | list hitems =>
      obtain ⟨a, ha, rfl⟩ := map_eq_ok h
      rw [Json.sorted, Schema.ofJson, Fields.ofItems_sorted fields hitems _ a ha]
      rfl
    | @record depth ms hnames hms =>
      obtain ⟨slots, a, hfill, hclose, hmake⟩ := Schema.ofJson_record_iff.1 h
      have hsorted := Json.fill_sortedMembers (fun m hm => Fields.ofMember_sorted fields (hms m hm))
        hfill
      have hdistinct : ((sortedMembers ms).map Prod.fst).Nodup := by
        rwa [Json.names_sortedMembers]
      -- distinct names: no member replaces another when they are put in order
      obtain ⟨ms', hms', hperm⟩ := Json.ofMembers_perm hdistinct
      rw [Json.sorted, hms']
      exact Schema.ofJson_record_iff.2
        ⟨slots, a, Fields.fill_perm hperm.symm hdistinct hsorted, hclose, hmake⟩
    | null | flag b | number n | text t => cases h

/-- The total is only told of in a mismatch, so it may be another one. -/
theorem Fields.ofItems_sorted : {α : Type} → (fs : Fields α) → {depth : Nat} →
    {items : List Json} → (∀ j ∈ items, j.IsProper depth) → {name : String} →
    {size total i : Nat} → (total' : Nat) → (a : α) →
    fs.ofItems name size total i items = .ok a →
    fs.ofItems name size total' i (sortedItems items) = .ok a
  | _, .nil, _, [], _, _, _, _, _, _, _, h => h
  | _, .nil, _, _ :: _, _, _, _, _, _, _, _, h => nomatch h
  | _, .cons f s rest, _, j :: items, hproper, _, _, _, _, total', p, h => by
    obtain ⟨hj, hitems⟩ := List.forall_mem_cons.1 hproper
    rw [Fields.ofItems] at h
    obtain ⟨a, ha, h⟩ := bind_eq_ok.1 h
    obtain ⟨b, hb, h⟩ := bind_eq_ok.1 h
    rw [sortedItems, Fields.ofItems]
    exact bind_eq_ok.2 ⟨a, Schema.ofJson_sorted s hj a ha,
      bind_eq_ok.2 ⟨b, Fields.ofItems_sorted rest hitems total' b hb, h⟩⟩
  | _, .cons f s rest, _, [], hproper, _, _, _, _, total', p, h => by
    rw [Fields.ofItems] at h
    rw [sortedItems, Fields.ofItems]
    rcases hf : f.fallback with _ | a
    · rw [hf] at h
      cases h
    · rw [hf] at h
      obtain ⟨b, hb, rfl⟩ := map_eq_ok h
      have hrest := Fields.ofItems_sorted rest hproper total' b hb
      rw [sortedItems] at hrest
      dsimp only
      rw [hrest]
      rfl

theorem Fields.ofMember_sorted : {α : Type} → (fs : Fields α) → {depth : Nat} → {j : Json} →
    j.IsProper depth → {name : String} → (before after : fs.Slots) →
    fs.ofMember name j before = .ok after → fs.ofMember name j.sorted before = .ok after
  | _, .nil, _, _, _, _, _, _, h => h
  | _, .cons f s rest, _, _, hproper, _, before, after, h => by
    rcases Fields.ofMember_cons_iff.1 h with ⟨hname, hfree, a, ha, heq⟩ | ⟨hname, more, hmore, heq⟩
    · exact Fields.ofMember_cons_iff.2
        (.inl ⟨hname, hfree, a, Schema.ofJson_sorted s hproper a ha, heq⟩)
    · exact Fields.ofMember_cons_iff.2
        (.inr ⟨hname, more, Fields.ofMember_sorted rest hproper _ _ hmore, heq⟩)

end

/-! ### What is written -/

mutual

theorem Schema.isProper_toJson : {α : Type} → (s : Schema α) → {depth : Nat} →
    s.IsFaithful depth → (a : α) → (s.toJson a).IsProper depth
  | _, .text, _, _, s => .text s
  | _, .flag, _, _, b => .flag b
  | _, .word32, _, _, n => .number (.natural n.toNat)
  | _, .word64, _, _, n => .number (.natural n.toNat)
  | _, .optional s, depth, hs, o => by
    rcases o with _ | a
    · exact .null
    · exact Schema.isProper_toJson s hs.1 a
  | _, .list s, depth + 1, hs, as => by
    refine .list fun j hj => ?_
    obtain ⟨a, -, rfl⟩ := List.mem_map.1 hj
    exact Schema.isProper_toJson s hs a
  | _, .record _ fields _ parts, depth + 1, hs, b =>
    .record (hs.1.sublist (fields.names_toMembers (parts b)))
      (Fields.isProper_toMembers fields hs.2.1 (parts b))

theorem Fields.isProper_toMembers : {α : Type} → (fs : Fields α) → {depth : Nat} →
    fs.AreFaithful depth → (p : α) → ∀ m ∈ fs.toMembers p, m.2.IsProper depth
  | _, .nil, _, _, _ => nofun
  | _, .cons f s rest, depth, hfields, p => by
    have hothers := Fields.isProper_toMembers rest hfields.2.2 p.2
    rw [Fields.toMembers]
    split
    · exact hothers
    · exact List.forall_mem_cons.2 ⟨Schema.isProper_toJson s hfields.2.1 p.1, hothers⟩

end

/-- **What is written is read back through a plain value**, the members of which stand in the order
of their names. -/
lemma Schema.ofJson_ofText_print {s : Schema α} (hs : s.IsFaithful Json.maxDepth) (a : α) :
    ∃ j, Json.ofText (s.toJson a).print = .ok j ∧ s.ofJson j = .ok a :=
  have hproper := s.isProper_toJson hs a
  ⟨_, Json.ofText_print (s.isWhole_toJson a) hproper,
    s.ofJson_sorted hproper a (s.ofJson_toJson hs a)⟩

end RegistrySync
