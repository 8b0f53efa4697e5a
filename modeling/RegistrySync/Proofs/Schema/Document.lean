import RegistrySync.Proofs.Json.Document
import RegistrySync.Proofs.Schema.Written
import RegistrySync.Schema.Document

/-!
Reading a text and reading the value of the text.

What a schema reads off a value it also reads off the document of the value, so a text can be read
for what it was written for.
-/

namespace RegistrySync

open Json (toItems toMembers)

variable {α β : Type} {name : String} {j : Json} {items : List Json} {ms : List (String × Json)}

lemma Json.word_toDocument {bits k : Nat} {expected : String}
    (h : Schema.asWord bits expected j.found = .ok k) :
    j.toDocument.word bits expected = .ok k := by
  cases j with
  | number n =>
    have hword : (Json.number n).toDocument.word bits expected =
        (Schema.asWord bits expected n.found).mapError .mismatch := rfl
    have hn : Schema.asWord bits expected n.found = .ok k := h
    rw [hword, hn]
    rfl
  | null | flag b | text s | list items | record members => cases h

lemma Json.toDocument_ne_null (h : j ≠ .null) : j.toDocument ≠ .null := by
  cases j with
  | null => exact absurd rfl h
  | flag b | number n | text s | list items | record members => nofun

lemma Json.read_toItems {s : Schema α}
    (hs : ∀ j a, s.ofJson j = .ok a → s.ofDocument j.toDocument = .ok a) {as : List α}
    (h : items.mapM s.ofJson = .ok as) : (toItems items).read s.ofDocument = .ok as := by
  induction items generalizing as with
  | nil => exact congrArg Except.ok (Except.ok.inj h)
  | cons j items ih =>
    rw [List.mapM_cons] at h
    obtain ⟨a, ha, h⟩ := bind_eq_ok.1 h
    obtain ⟨rest, hrest, h⟩ := bind_eq_ok.1 h
    obtain rfl := Except.ok.inj h
    rw [toItems, Items.read, hs j a ha, ih hrest]
    rfl

lemma Json.read_toMembers {fs : Fields α}
    (hfs : ∀ name j slots after, fs.ofMember name j slots = .ok after →
      fs.takeMember name j.toDocument slots = .ok after) {slots after : fs.Slots}
    (h : fs.fill ms slots = .ok after) : (toMembers ms).read fs.takeMember slots = .ok after := by
  induction ms generalizing slots with
  | nil => exact congrArg Except.ok (Except.ok.inj h)
  | cons m ms ih =>
    rw [Fields.fill_cons] at h
    obtain ⟨mid, hmid, h⟩ := bind_eq_ok.1 h
    rw [toMembers, Members.read]
    simp only [bind, Except.bind, hfs _ _ _ _ hmid]
    exact ih h

mutual

theorem Schema.ofDocument_toDocument : {α : Type} → (s : Schema α) → (j : Json) → (a : α) →
    s.ofJson j = .ok a → s.ofDocument j.toDocument = .ok a
  | _, .text, j, a, h => by
    cases j with
    | text t => exact congrArg Except.ok (Except.ok.inj h)
    | null | flag b | number n | list items | record members => cases h
  | _, .flag, j, a, h => by
    cases j with
    | flag b => exact congrArg Except.ok (Except.ok.inj h)
    | null | text t | number n | list items | record members => cases h
  | _, .word32, j, a, h => by
    obtain ⟨k, hk, rfl⟩ := map_eq_ok h
    rw [Schema.ofDocument, Json.word_toDocument hk]
    rfl
  | _, .word64, j, a, h => by
    obtain ⟨k, hk, rfl⟩ := map_eq_ok h
    rw [Schema.ofDocument, Json.word_toDocument hk]
    rfl
  | _, .optional s, j, o, h => by
    by_cases hj : j = .null
    · subst hj
      exact congrArg Except.ok (Except.ok.inj h)
    · rw [Schema.ofJson] at h
      · obtain ⟨a, ha, rfl⟩ := map_eq_ok h
        rw [Schema.ofDocument, Schema.ofDocument_toDocument s j a ha]
        · rfl
        · exact Json.toDocument_ne_null hj
      · exact hj
  | _, .list s, j, as, h => by
    cases j with
    | list items => exact Json.read_toItems (Schema.ofDocument_toDocument s) h
    | null | flag b | text t | number n | record members => cases h
  | _, .record name fields make parts, j, b, h => by
    cases j with
    | list items =>
      obtain ⟨a, ha, rfl⟩ := map_eq_ok h
      rw [Json.toDocument, Schema.ofDocument, Fields.takeItems_toItems fields ha]
      rfl
    | record ms =>
      obtain ⟨slots, a, hfill, hclose, rfl⟩ := Schema.ofJson_record_iff.1 h
      have hread := Json.read_toMembers (Fields.takeMember_toDocument fields) hfill
      rw [Json.toDocument, Schema.ofDocument]
      simp only [bind, Except.bind, hread, hclose]
      rfl
    | null | flag b | text t | number n => cases h

theorem Fields.takeItems_toItems : {α : Type} → (fs : Fields α) → {name : String} →
    {size total i : Nat} → {items : List Json} → {a : α} →
    fs.ofItems name size total i items = .ok a →
    fs.takeItems name size i (toItems items) = .ok a
  | _, .nil, _, _, _, _, [], _, h => congrArg Except.ok (Except.ok.inj h)
  | _, .nil, _, _, _, _, _ :: _, _, h => nomatch h
  | _, .cons f s rest, name, size, total, i, j :: items, p, h => by
    rw [Fields.ofItems] at h
    obtain ⟨a, ha, h⟩ := bind_eq_ok.1 h
    obtain ⟨b, hb, h⟩ := bind_eq_ok.1 h
    obtain rfl := Except.ok.inj h
    rw [toItems, Fields.takeItems, Schema.ofDocument_toDocument s j a ha]
    simp only [bind, Except.bind, Fields.takeItems_toItems rest hb]
    rfl
  | _, .cons f s rest, name, size, total, i, [], p, h => by
    rw [Fields.ofItems] at h
    rcases hf : f.fallback with _ | a
    · rw [hf] at h
      cases h
    · rw [hf] at h
      obtain ⟨b, hb, rfl⟩ := map_eq_ok h
      have hrest := Fields.takeItems_toItems rest hb
      rw [toItems] at hrest
      rw [toItems, Fields.takeItems, Json.ListEnd.fault, hf, hrest]
      rfl

theorem Fields.takeMember_toDocument : {α : Type} → (fs : Fields α) → (name : String) →
    (j : Json) → (slots after : fs.Slots) → fs.ofMember name j slots = .ok after →
    fs.takeMember name j.toDocument slots = .ok after
  | _, .nil, _, j, slots, after, h => by
    rw [Fields.takeMember, Json.obstacle_toDocument]
    exact congrArg Except.ok (Except.ok.inj h)
  | _, .cons f s rest, name, j, slots, after, h => by
    rw [Fields.takeMember]
    rcases Fields.ofMember_cons_iff.1 h with ⟨hname, hfree, a, ha, rfl⟩ | ⟨hname, more, hmore, rfl⟩
    · rw [if_pos hname, hfree, Schema.ofDocument_toDocument s j a ha]
      rfl
    · rw [if_neg hname, Fields.takeMember_toDocument rest name j slots.2 more hmore]
      rfl

end

/-- **A text is read for what it was written for.** -/
lemma Schema.ofText_print {s : Schema α} {depth : Nat} (hs : s.IsFaithful depth) (a : α) :
    s.ofText (s.toJson a).print = .ok a := by
  have hread := s.ofDocument_toDocument _ a (s.ofJson_toJson hs a)
  rw [Schema.ofText, Schema.ofBytes, Json.parse_print (s.isWhole_toJson a)]
  simp only [bind, Except.bind, hread]
  rfl

end RegistrySync
