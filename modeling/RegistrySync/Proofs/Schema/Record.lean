import Mathlib.Tactic.Lemma
import RegistrySync.Schema.Document

/-!
Reading the fields of a record.

The members of a record may come in any order. Each field is filled by the member with its name, if
there is one, and by nothing else; two members with its name are too many, and so is one that has no
value for the field. Members with other names are passed over.
-/

namespace RegistrySync

open Json (Document Members Fault Reading)

namespace Json

lemma RecordEnd.fault_of_obstacle {e : RecordEnd} (h : e.obstacle = none) : e.fault = none := by
  cases e <;> first | rfl | cases h

namespace Members

def named (name : String) : Members → List Document
  | .stop _ => []
  | .member key d rest =>
    match key.content with
    | .ok found => if found = name then d :: rest.named name else rest.named name
    | .error _ => rest.named name

def HasNames : Members → Prop
  | .stop _ => True
  | .member key _ rest => (∃ name, key.content = .ok name) ∧ rest.HasNames

lemma named_member {key : Reading String} {found : String} (hkey : key.content = .ok found)
    (name : String) (d : Document) (rest : Members) : (Members.member key d rest).named name =
      if found = name then d :: rest.named name else rest.named name := by
  rw [named, hkey]

lemma obstacle_member {key : Reading String} {d : Document} {rest : Members}
    (h : (Members.member key d rest).obstacle = none) :
    d.obstacle = none ∧ rest.obstacle = none := by
  rw [obstacle] at h
  simp only [Option.orElse_eq_orElse, Option.orElse_eq_or, Option.or_eq_none_iff] at h
  exact ⟨h.2.1, h.2.2⟩

lemma obstacle_of_mem_named {name : String} : (ms : Members) → ms.obstacle = none →
    ∀ d ∈ ms.named name, d.obstacle = none
  | .stop _, _ => nofun
  | .member key d rest, h => by
    obtain ⟨hd, hrest⟩ := obstacle_member h
    have hothers : ∀ d ∈ rest.named name, d.obstacle = none := obstacle_of_mem_named rest hrest
    rw [named]
    split
    · split
      · exact List.forall_mem_cons.2 ⟨hd, hothers⟩
      · exact hothers
    · exact hothers

end Members

end Json

/-- What the values with the name of a field make of its place. -/
def IsFilled {α : Type} (read : Document → Except Fault α) :
    Option α → List Document → Option α → Prop
  | before, [], after => after = before
  | none, [d], after => ∃ a, read d = .ok a ∧ after = some a
  | _, _, _ => False

lemma isFilled_cons {α : Type} {read : Document → Except Fault α} {before after : Option α}
    {d : Document} {ds : List Document} : IsFilled read before (d :: ds) after ↔
      before = none ∧ ∃ a, read d = .ok a ∧ IsFilled read (some a) ds after := by
  rcases before with _ | b
  · rcases ds with _ | ⟨d', ds⟩ <;> simp [IsFilled]
  · simp [IsFilled]

namespace Fields

def names : {α : Type} → Fields α → List String
  | _, .nil => []
  | _, .cons f _ rest => f.name :: rest.names

/-- The members of a record fill each place by their values for its field. -/
def AreFilled : {α : Type} → (fs : Fields α) → Members → fs.Slots → fs.Slots → Prop
  | _, .nil, _, _, _ => True
  | _, .cons f s rest, ms, before, after =>
    IsFilled s.ofDocument before.1 (ms.named f.name) after.1 ∧ rest.AreFilled ms before.2 after.2

lemma areFilled_congr : {α : Type} → (fs : Fields α) → {ms ms' : Members} →
    (∀ name ∈ fs.names, ms.named name = ms'.named name) → (before after : fs.Slots) →
    (fs.AreFilled ms before after ↔ fs.AreFilled ms' before after)
  | _, .nil, _, _, _, _, _ => Iff.rfl
  | _, .cons f s rest, ms, ms', h, before, after => by
    obtain ⟨hf, hrest⟩ := List.forall_mem_cons.1 h
    rw [AreFilled, AreFilled, hf, areFilled_congr rest hrest]

lemma areFilled_stop : {α : Type} → (fs : Fields α) → (e : Json.RecordEnd) →
    (before after : fs.Slots) → (fs.AreFilled (.stop e) before after ↔ after = before)
  | _, .nil, _, _, _ => ⟨fun _ => rfl, fun _ => trivial⟩
  | _, .cons f s rest, e, before, after => by
    rw [AreFilled, areFilled_stop rest]
    exact ⟨fun ⟨hfirst, hrest⟩ => Prod.ext hfirst hrest, fun h => h ▸ ⟨rfl, rfl⟩⟩

lemma areFilled_member : {α : Type} → (fs : Fields α) → fs.names.Nodup → {key : Reading String} →
    {name : String} → key.content = .ok name → {d : Document} → d.obstacle = none →
    (ms : Members) → (before after : fs.Slots) →
    (fs.AreFilled (.member key d ms) before after ↔
      ∃ mid, fs.takeMember name d before = .ok mid ∧ fs.AreFilled ms mid after)
  | _, .nil, _, _, _, _, _, hd, _, before, _ => by
    simp [AreFilled, takeMember, hd]
  | _, .cons f s rest, hnames, key, name, hkey, d, hd, ms, before, after => by
    obtain ⟨hfirst, hrest⟩ := List.nodup_cons.1 hnames
    rw [AreFilled, takeMember, Json.Members.named_member hkey]
    by_cases hname : f.name = name
    · -- no other field has this name
      have hothers (n : String) (hn : n ∈ rest.names) :
          (Members.member key d ms).named n = ms.named n := by
        rw [Json.Members.named_member hkey, if_neg]
        rintro rfl
        exact hfirst (hname ▸ hn)
      rw [if_pos hname, if_pos hname.symm, isFilled_cons, areFilled_congr rest hothers]
      rcases hbefore : before.1 with _ | b
      · rcases hread : s.ofDocument d with fault | a
        · simp [Except.map]
        · simp only [Except.map, Option.isSome_none, Bool.false_eq_true, if_false, true_and,
            Except.ok.injEq, exists_eq_left', AreFilled]
          exact ⟨fun h => ⟨_, rfl, h⟩, by rintro ⟨_, ⟨⟩, h⟩; exact h⟩
      · simp
    · rw [if_neg hname, if_neg (Ne.symm hname), areFilled_member rest hrest hkey hd]
      rcases rest.takeMember name d before.2 with fault | mid
      · simp [Except.map]
      · exact ⟨fun ⟨hf, _, hmid, h⟩ => ⟨_, rfl, hf, Except.ok.inj hmid ▸ h⟩,
          by rintro ⟨_, ⟨⟩, hf, h⟩; exact ⟨hf, mid, rfl, h⟩⟩

/-- **What is read off the members.** Reading succeeds exactly if every name can be used and the
places are filled by the members with their names. -/
lemma read_takeMember_iff {α : Type} (fs : Fields α) (hnames : fs.names.Nodup) :
    (ms : Members) → ms.obstacle = none → (before after : fs.Slots) →
    (ms.read fs.takeMember before = .ok after ↔ ms.HasNames ∧ fs.AreFilled ms before after)
  | .stop e, h, before, after => by
    have hfault := Json.RecordEnd.fault_of_obstacle h
    rw [Json.Members.read, hfault, areFilled_stop, Json.Members.HasNames, true_and]
    simp [eq_comm]
  | .member key d rest, h, before, after => by
    obtain ⟨hd, hrest⟩ := Json.Members.obstacle_member h
    rw [Json.Members.read, Json.Members.HasNames]
    rcases hkey : key.content with fault | name
    · simp [bind, Except.bind]
    · rw [areFilled_member fs hnames hkey hd]
      simp only [bind, Except.bind]
      rcases fs.takeMember name d before with fault | mid
      · simp
      · simp [read_takeMember_iff fs hnames rest hrest]

/-- A field has the value that was met for it, or else its fallback. -/
lemma close_of_eq_some {α β : Type} {f : Field α} {s : Schema α} {rest : Fields β}
    {slots : (Fields.cons f s rest).Slots} {a : α} {b : β}
    (ha : (slots.1 <|> f.fallback) = some a) (hrest : rest.close slots.2 = .ok b) :
    (Fields.cons f s rest).close slots = .ok (a, b) := by
  rw [close, ha]
  exact congrArg (Except.map _) hrest

lemma close_cons {α β : Type} {f : Field α} {fallback : α} (hf : f.fallback = some fallback)
    {s : Schema α} {rest : Fields β} {slots : (Fields.cons f s rest).Slots} {b : β}
    (hrest : rest.close slots.2 = .ok b) :
    (Fields.cons f s rest).close slots = .ok (slots.1.getD fallback, b) := by
  refine close_of_eq_some ?_ hrest
  rw [hf]
  rcases slots.1 with _ | a <;> rfl

end Fields

lemma Schema.ofDocument_optional {α : Type} {s : Schema α} {d : Document} (hd : d ≠ .null) :
    (∃ o, (Schema.optional s).ofDocument d = .ok o) ↔ ∃ a, s.ofDocument d = .ok a := by
  rw [Schema.ofDocument]
  · rcases s.ofDocument d with fault | a
    · simp [Except.map]
    · simp [Except.map]
  · exact hd

lemma Schema.ofDocument_record_iff {α β : Type} (name : String) {fields : Fields α}
    (hnames : fields.names.Nodup) (make : α → β) (parts : β → α) {ms : Members}
    (hms : ms.obstacle = none) {b : β} :
    (Schema.record name fields make parts).ofDocument (.record ms) = .ok b ↔
      ms.HasNames ∧ ∃ slots, fields.AreFilled ms fields.empty slots ∧
        ∃ a, fields.close slots = .ok a ∧ b = make a := by
  have hread := Fields.read_takeMember_iff fields hnames ms hms fields.empty
  rw [Schema.ofDocument]
  simp only [bind, Except.bind]
  rcases h : ms.read fields.takeMember fields.empty with fault | slots
  · simp only [h, reduceCtorEq, false_iff, not_and] at hread
    simp only [reduceCtorEq, false_iff]
    rintro ⟨hhas, slots, hfilled, -⟩
    exact hread slots hhas hfilled
  · obtain ⟨hhas, hfilled⟩ := (hread slots).1 h
    -- the members fill the places in one way
    have hunique {slots' : fields.Slots} (h' : fields.AreFilled ms fields.empty slots') :
        slots' = slots := Except.ok.inj (((hread slots').2 ⟨hhas, h'⟩).symm.trans h)
    dsimp only
    constructor
    · intro hb
      refine ⟨hhas, slots, hfilled, ?_⟩
      rcases hc : fields.close slots with m | a
      all_goals
        rw [hc] at hb
        cases hb
      exact ⟨a, rfl, rfl⟩
    · rintro ⟨-, slots', hfilled', a, hc, rfl⟩
      rw [hunique hfilled'] at hc
      rw [hc]
      rfl

end RegistrySync
