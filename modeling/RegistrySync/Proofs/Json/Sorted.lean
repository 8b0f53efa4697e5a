import Mathlib.Data.List.Perm.Basic
import RegistrySync.Proofs.Json.Document

/-!
The members of a record in the order of their names.

A text that is read as a plain value gives the value that it was written for, but for the order in
which the members of its records stand.
-/

namespace RegistrySync.Json

open Text

variable {depth : Nat} {j : Json} {name : String} {value : Json} {items : List Json}
  {ms acc : List (String × Json)}

/-- A value with distinct names in each record, and with lists and records at most `depth` deep
inside each other. -/
inductive IsProper : (depth : Nat) → Json → Prop
  | null {depth : Nat} : IsProper depth .null
  | flag {depth : Nat} (b : Bool) : IsProper depth (.flag b)
  | number {depth : Nat} (n : Number) : IsProper depth (.number n)
  | text {depth : Nat} (s : String) : IsProper depth (.text s)
  | list {depth : Nat} {items : List Json} (h : ∀ j ∈ items, IsProper depth j) :
    IsProper (depth + 1) (.list items)
  | record {depth : Nat} {members : List (String × Json)}
    (hnames : (members.map Prod.fst).Nodup) (h : ∀ m ∈ members, IsProper depth m.2) :
    IsProper (depth + 1) (.record members)

mutual

/-- The value with the members of every record in the order of their names. -/
def sorted : Json → Json
  | .null => .null
  | .flag b => .flag b
  | .number n => .number n
  | .text s => .text s
  | .list items => .list (sortedItems items)
  | .record members => .ofMembers (sortedMembers members)

def sortedItems : List Json → List Json
  | [] => []
  | j :: rest => j.sorted :: sortedItems rest

def sortedMembers : List (String × Json) → List (String × Json)
  | [] => []
  | (name, j) :: rest => (name, j.sorted) :: sortedMembers rest

end

/-! ### Putting members in their places -/

lemma insertMember_perm (h : name ∉ ms.map Prod.fst) :
    List.Perm (insertMember name value ms) ((name, value) :: ms) := by
  induction ms with
  | nil => exact .refl _
  | cons m ms ih =>
    rw [List.map_cons, List.mem_cons, not_or] at h
    rw [insertMember]
    split
    · exact .refl _
    · rw [if_neg h.1]
      exact ((ih h.2).cons m).trans (.swap ..)

lemma foldl_insertMember_perm (h : ((ms ++ acc).map Prod.fst).Nodup) :
    List.Perm (ms.foldl (fun acc m => insertMember m.1 m.2 acc) acc) (ms ++ acc) := by
  induction ms generalizing acc with
  | nil => exact .refl _
  | cons m ms ih =>
    rw [List.cons_append, List.map_cons, List.nodup_cons, List.map_append] at h
    have hinsert : List.Perm (insertMember m.1 m.2 acc) (m :: acc) :=
      insertMember_perm fun hm => h.1 (List.mem_append_right _ hm)
    have hmiddle : List.Perm (ms ++ insertMember m.1 m.2 acc) (m :: (ms ++ acc)) :=
      (hinsert.append_left ms).trans List.perm_middle
    refine (ih ?_).trans hmiddle
    rw [(hmiddle.map Prod.fst).nodup_iff, List.map_cons, List.map_append]
    exact List.nodup_cons.2 h

/-- Members with distinct names are all kept. -/
lemma ofMembers_perm (h : (ms.map Prod.fst).Nodup) :
    ∃ ms', ofMembers ms = .record ms' ∧ List.Perm ms' ms := by
  have hnames : ((ms ++ []).map Prod.fst).Nodup := by rwa [List.append_nil]
  have hperm := foldl_insertMember_perm hnames
  rw [List.append_nil] at hperm
  exact ⟨_, rfl, hperm⟩

lemma names_sortedMembers (ms : List (String × Json)) :
    (sortedMembers ms).map Prod.fst = ms.map Prod.fst := by
  induction ms with
  | nil => rfl
  | cons m ms ih => exact congrArg (m.1 :: ·) ih

/-! ### Reading plain values -/

lemma values_toItems (h : ∀ j ∈ items, j.toDocument.value depth = .ok j.sorted) :
    (toItems items).values depth = .ok (sortedItems items) := by
  induction items with
  | nil => rfl
  | cons j items ih =>
    obtain ⟨hj, hitems⟩ := List.forall_mem_cons.1 h
    rw [toItems, Items.values, hj, ih hitems]
    rfl

lemma values_toMembers (h : ∀ m ∈ ms, m.2.toDocument.value depth = .ok m.2.sorted) :
    (toMembers ms).values depth = .ok (sortedMembers ms) := by
  induction ms with
  | nil => rfl
  | cons m ms ih =>
    obtain ⟨hm, hms⟩ := List.forall_mem_cons.1 h
    rw [toMembers, Members.values, hm, ih hms]
    rfl

lemma value_toDocument (h : IsProper depth j) : j.toDocument.value depth = .ok j.sorted := by
  induction h with
  | null | flag b | number n | text s => rfl
  | list h ih =>
    rw [toDocument, Document.value, values_toItems ih]
    rfl
  | record hnames h ih =>
    rw [toDocument, Document.value, values_toMembers ih]
    rfl

/-- **A text is read as the value it was written for**, with the members of records in the order of
their names. -/
lemma ofText_print (hwhole : IsWhole j) (hproper : IsProper maxDepth j) :
    ofText j.print = .ok j.sorted := by
  rw [ofText, ofBytes, parse_print hwhole]
  simp only [bind, Except.bind, value_toDocument hproper]
  rfl

end RegistrySync.Json
