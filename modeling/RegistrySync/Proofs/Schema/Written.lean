import RegistrySync.Proofs.Except
import RegistrySync.Proofs.Json.Print
import RegistrySync.Proofs.Schema.Record
import RegistrySync.Schema.Json

/-!
What is written is read back.

A schema is faithful if its records name their fields differently, take for a field that is left out
the value that it was left out for, and are put together again from their parts. Every value of a
faithful schema is then read back from what is written for it.
-/

namespace RegistrySync

/-- The values that are not written are what is taken for them. -/
def Field.IsFaithful {α : Type} (f : Field α) : Prop :=
  ∀ a, f.isOmitted a = true → f.fallback = some a

lemma Field.isFaithful_required {α : Type} (name : String) :
    (Field.required name : Field α).IsFaithful := nofun

lemma Field.isFaithful_optional {α : Type} (name : String) (fallback : α) :
    (Field.optional name fallback).IsFaithful := nofun

mutual

/-- Nothing of a value is lost when it is written, and what is written has lists and records at most
`depth` deep inside each other. -/
def Schema.IsFaithful : {α : Type} → Schema α → (depth : Nat) → Prop
  | _, .text, _ => True
  | _, .flag, _ => True
  | _, .word32, _ => True
  | _, .word64, _ => True
  | _, .optional s, depth => s.IsFaithful depth ∧ ∀ a, s.toJson a ≠ .null
  | _, .list _, 0 => False
  | _, .list s, depth + 1 => s.IsFaithful depth
  | _, .record _ _ _ _, 0 => False
  | _, .record _ fields make parts, depth + 1 =>
    fields.names.Nodup ∧ fields.AreFaithful depth ∧ ∀ b, make (parts b) = b

def Fields.AreFaithful : {α : Type} → Fields α → (depth : Nat) → Prop
  | _, .nil, _ => True
  | _, .cons f s rest, depth => f.IsFaithful ∧ s.IsFaithful depth ∧ rest.AreFaithful depth

end

/-! ### Filling the fields -/

namespace Fields

variable {α β : Type} {f : Field α} {s : Schema α} {rest : Fields β} {name : String} {j : Json}
  {o : Option α} {before after : rest.Slots}

/-- The place of the first field beside those of the others. -/
def place (o : Option α) (others : rest.Slots) : (Fields.cons f s rest).Slots := (o, others)

lemma ofMember_cons_iff {before after : (Fields.cons f s rest).Slots} :
    (Fields.cons f s rest).ofMember name j before = .ok after ↔
      (f.name = name ∧ before.1 = none ∧
        ∃ a, s.ofJson j = .ok a ∧ place (some a) before.2 = after) ∨
      (f.name ≠ name ∧
        ∃ more, rest.ofMember name j before.2 = .ok more ∧ place before.1 more = after) := by
  rw [ofMember]
  by_cases hname : f.name = name
  · rw [if_pos hname]
    constructor
    · intro h
      split at h
      · cases h
      · rename_i hfree
        obtain ⟨a, ha, rfl⟩ := map_eq_ok h
        exact .inl ⟨hname, Option.not_isSome_iff_eq_none.1 hfree, a, ha, rfl⟩
    · rintro (⟨-, hfree, a, ha, rfl⟩ | ⟨hother, -⟩)
      · rw [hfree, ha]
        rfl
      · exact absurd hname hother
  · rw [if_neg hname]
    constructor
    · intro h
      obtain ⟨more, hmore, rfl⟩ := map_eq_ok h
      exact .inr ⟨hname, more, hmore, rfl⟩
    · rintro (⟨heq, -⟩ | ⟨-, more, hmore, rfl⟩)
      · exact absurd heq hname
      · rw [hmore]
        rfl

def fill (fs : Fields α) (ms : List (String × Json)) (slots : fs.Slots) :
    Except Schema.Mismatch fs.Slots :=
  ms.foldlM (fun slots m => fs.ofMember m.1 m.2 slots) slots

lemma fill_cons (fs : Fields α) (m : String × Json) (ms : List (String × Json)) (slots : fs.Slots) :
    fs.fill (m :: ms) slots = fs.ofMember m.1 m.2 slots >>= fs.fill ms := rfl

lemma fill_others {ms : List (String × Json)} (h : ∀ m ∈ ms, f.name ≠ m.1) (o : Option α)
    (hrest : rest.fill ms before = .ok after) :
    (Fields.cons f s rest).fill ms (place o before) = .ok (place o after) := by
  induction ms generalizing before with
  | nil =>
    obtain rfl : before = after := Except.ok.inj hrest
    rfl
  | cons m ms ih =>
    obtain ⟨hm, hms⟩ := List.forall_mem_cons.1 h
    rw [fill_cons] at hrest
    obtain ⟨mid, hmid, hrest⟩ := bind_eq_ok.1 hrest
    have hfirst : (Fields.cons f s rest).ofMember m.1 m.2 (place o before) = .ok (place o mid) :=
      ofMember_cons_iff.2 (.inr ⟨hm, mid, hmid, rfl⟩)
    rw [fill_cons, hfirst]
    exact ih hms hrest

lemma names_toMembers : {α : Type} → (fs : Fields α) → (p : α) →
    ((fs.toMembers p).map Prod.fst).Sublist fs.names
  | _, .nil, _ => .slnil
  | _, .cons f s rest, p => by
    rw [toMembers, names]
    split
    · exact (names_toMembers rest p.2).cons f.name
    · exact (names_toMembers rest p.2).cons_cons f.name

end Fields

lemma Schema.asWord_of_lt {bits n : Nat} {expected : String} (h : n < Nat.pow 2 bits) :
    Schema.asWord bits expected (.natural n) = .ok n := if_pos h

lemma Schema.ofJson_record_iff {α β : Type} {name : String} {fields : Fields α} {make : α → β}
    {parts : β → α} {ms : List (String × Json)} {b : β} :
    (Schema.record name fields make parts).ofJson (.record ms) = .ok b ↔
      ∃ slots a, fields.fill ms fields.empty = .ok slots ∧ fields.close slots = .ok a ∧
        make a = b := by
  have hread : (Schema.record name fields make parts).ofJson (.record ms) =
      (fields.fill ms fields.empty >>= fun slots => (fields.close slots).map make) := rfl
  rw [hread, bind_eq_ok]
  constructor
  · rintro ⟨slots, hfill, hclose⟩
    obtain ⟨a, ha, rfl⟩ := map_eq_ok hclose
    exact ⟨slots, a, hfill, ha, rfl⟩
  · rintro ⟨slots, a, hfill, hclose, rfl⟩
    exact ⟨slots, hfill, by rw [hclose]; rfl⟩

/-! ### Reading back -/

mutual

theorem Schema.ofJson_toJson : {α : Type} → (s : Schema α) → {depth : Nat} →
    s.IsFaithful depth → (a : α) → s.ofJson (s.toJson a) = .ok a
  | _, .text, _, _, _ => rfl
  | _, .flag, _, _, _ => rfl
  | _, .word32, _, _, n => by
    rw [Schema.toJson, Schema.ofJson, Json.found, Json.Number.found,
      Schema.asWord_of_lt n.toNat_lt]
    exact congrArg Except.ok (UInt32.ofNat_toNat)
  | _, .word64, _, _, n => by
    rw [Schema.toJson, Schema.ofJson, Json.found, Json.Number.found,
      Schema.asWord_of_lt n.toNat_lt]
    exact congrArg Except.ok (UInt64.ofNat_toNat)
  | _, .optional s, depth, hs, o => by
    obtain ⟨hs, hnull⟩ := hs
    rcases o with _ | a
    · rfl
    · -- null stands for nothing, so no value may be written as null
      rw [Schema.toJson, Schema.ofJson]
      · rw [Schema.ofJson_toJson s hs a]
        rfl
      · exact hnull a
  | _, .list s, depth + 1, hs, as => by
    rw [Schema.toJson, Schema.ofJson]
    induction as with
    | nil => rfl
    | cons a as ih =>
      rw [List.map_cons, List.mapM_cons, Schema.ofJson_toJson s hs a, ih]
      rfl
  | _, .record name fields make parts, depth + 1, hs, b => by
    obtain ⟨hnames, hfields, hmake⟩ := hs
    obtain ⟨slots, hfill, hclose⟩ := Fields.fill_toMembers fields hfields hnames (parts b)
    rw [Schema.toJson]
    exact Schema.ofJson_record_iff.2 ⟨slots, parts b, hfill, hclose, hmake b⟩

theorem Fields.fill_toMembers : {α : Type} → (fs : Fields α) → {depth : Nat} →
    fs.AreFaithful depth → fs.names.Nodup → (p : α) →
    ∃ slots, fs.fill (fs.toMembers p) fs.empty = .ok slots ∧ fs.close slots = .ok p
  | _, .nil, _, _, _, _ => ⟨(), rfl, rfl⟩
  | _, .cons f s rest, depth, hfields, hnames, p => by
    obtain ⟨hf, hs, hrest⟩ := hfields
    obtain ⟨hname, hothers⟩ := List.nodup_cons.1 hnames
    obtain ⟨slots, hfill, hclose⟩ := Fields.fill_toMembers rest hrest hothers p.2
    have hname : ∀ m ∈ rest.toMembers p.2, f.name ≠ m.1 := by
      rintro m hm heq
      exact hname (heq ▸ (Fields.names_toMembers rest p.2).subset (List.mem_map_of_mem hm))
    have hempty : (Fields.cons f s rest).empty = Fields.place none rest.empty := rfl
    rw [Fields.toMembers, hempty]
    by_cases homitted : f.isOmitted p.1 = true
    · -- the place stays empty, and closing it puts the fallback there
      rw [if_pos homitted]
      exact ⟨Fields.place none slots, Fields.fill_others hname none hfill,
        Fields.close_of_eq_some (hf p.1 homitted) hclose⟩
    · rw [if_neg homitted]
      refine ⟨Fields.place (some p.1) slots, ?_, Fields.close_of_eq_some rfl hclose⟩
      have hfirst : (Fields.cons f s rest).ofMember f.name (s.toJson p.1)
          (Fields.place none rest.empty) = .ok (Fields.place (some p.1) rest.empty) :=
        Fields.ofMember_cons_iff.2 (.inl ⟨rfl, rfl, p.1, Schema.ofJson_toJson s hs p.1, rfl⟩)
      rw [Fields.fill_cons, hfirst]
      exact Fields.fill_others hname (some p.1) hfill

end

/-! ### What is written -/

mutual

theorem Schema.isWhole_toJson : {α : Type} → (s : Schema α) → (a : α) → (s.toJson a).IsWhole
  | _, .text, s => .text s
  | _, .flag, b => .flag b
  | _, .word32, n => .word (Nat.lt_trans n.toNat_lt (by decide))
  | _, .word64, n => .word n.toNat_lt
  | _, .optional s, o => by
    rcases o with _ | a
    · exact .null
    · exact Schema.isWhole_toJson s a
  | _, .list s, as => by
    refine .list fun j hj => ?_
    obtain ⟨a, -, rfl⟩ := List.mem_map.1 hj
    exact Schema.isWhole_toJson s a
  | _, .record _ fields _ parts, b => .record (Fields.isWhole_toMembers fields (parts b))

theorem Fields.isWhole_toMembers : {α : Type} → (fs : Fields α) → (p : α) →
    ∀ m ∈ fs.toMembers p, m.2.IsWhole
  | _, .nil, _ => nofun
  | _, .cons f s rest, p => by
    have hothers := Fields.isWhole_toMembers rest p.2
    rw [Fields.toMembers]
    split
    · exact hothers
    · exact List.forall_mem_cons.2 ⟨Schema.isWhole_toJson s p.1, hothers⟩

end

end RegistrySync
