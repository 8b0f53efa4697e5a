import RegistrySync.Daemon.Message
import RegistrySync.Proofs.Schema.Record

/-!
Which records are messages.

A record is taken for a message if its names can be used, none of the names that a message knows
stands twice in it, and each of these has a value of its kind. Otherwise the line is shown as it is,
whatever else is in it.
-/

namespace RegistrySync.Daemon

open Json (Document Members Items Fault Reading)

def IsTextOrNull : Document → Prop
  | .null => True
  | .text r => ∃ s, r.content = .ok s
  | _ => False

/-- At most one member has the name, and its value is of the kind. -/
def HasAtMost (kind : Document → Prop) (ms : Members) (name : String) : Prop :=
  ms.named name = [] ∨ ∃ d, ms.named name = [d] ∧ kind d

/-- The details of an error: a record that may have a message in it, a list with at most that in it,
or null. -/
def IsDetail : Document → Prop
  | .null => True
  | .record ms => ms.HasNames ∧ HasAtMost IsTextOrNull ms "message"
  | .list (.stop _) => True
  | .list (.item d (.stop _)) => IsTextOrNull d
  | _ => False

/-- The members of a message. -/
structure IsMessage (ms : Members) : Prop where
  names : ms.HasNames
  id : HasAtMost IsTextOrNull ms "id"
  status : HasAtMost IsTextOrNull ms "status"
  progress : HasAtMost IsTextOrNull ms "progress"
  error : HasAtMost IsTextOrNull ms "error"
  detail : HasAtMost IsDetail ms "errorDetail"

variable {α : Type} {d : Document} {ms : Members} {r : Reading String}

/-! ### Values -/

lemma isTextOrNull_iff :
    IsTextOrNull d ↔ ∃ o, (Schema.optional .text).ofDocument d = .ok o := by
  cases d with
  | null => simp [IsTextOrNull, Schema.ofDocument]
  | text r =>
    rcases h : r.content with fault | s
    · simp [IsTextOrNull, Schema.ofDocument, h, Except.map]
    · simp [IsTextOrNull, Schema.ofDocument, h, Except.map]
  | flag b | number n | list items | record members | broken fault =>
    simp [IsTextOrNull, Schema.ofDocument, Except.map]

lemma exists_isFilled_iff {kind : Document → Prop} {read : Document → Except Fault α} {name : String}
    (hread : ∀ d, d ∈ ms.named name → (kind d ↔ ∃ a, read d = .ok a)) :
    HasAtMost kind ms name ↔ ∃ o, IsFilled read none (ms.named name) o := by
  rw [HasAtMost]
  rcases h : ms.named name with _ | ⟨d, _ | ⟨d', ds⟩⟩
  · simp [IsFilled]
  · rw [h] at hread
    have hd := hread d List.mem_cons_self
    simp only [IsFilled, List.cons.injEq, and_true, reduceCtorEq, false_or, exists_eq_left', hd]
    constructor
    · rintro ⟨a, ha⟩
      exact ⟨some a, a, ha, rfl⟩
    · rintro ⟨-, a, ha, -⟩
      exact ⟨a, ha⟩
  · simp [IsFilled]

/-! ### Records -/

lemma ListEnd.eq_closed {e : Json.ListEnd} (h : e.obstacle = none) : e = .closed := by
  cases e <;> first | rfl | cases h

lemma isTextOrNull_of_named {name : String} : HasAtMost IsTextOrNull ms name ↔
    ∃ o, IsFilled (Schema.optional .text).ofDocument none (ms.named name) o :=
  exists_isFilled_iff fun _ _ => isTextOrNull_iff

lemma ofDocument_item (d : Document) (rest : Items) :
    Message.detailSchema.ofDocument (.list (.item d rest)) =
      ((Schema.optional .text).ofDocument d >>= fun o =>
        (Fields.nil.takeItems "ErrorDetail" 1 1 rest).map fun _ => o) := by
  have hitems : Message.detailSchema.ofDocument (.list (.item d rest)) =
      ((Schema.optional .text).ofDocument d >>= fun o =>
        Fields.nil.takeItems "ErrorDetail" 1 1 rest >>= fun u => pure (o, u)).map (·.1) := rfl
  rw [hitems]
  simp only [bind, Except.bind, pure, Except.pure]
  rcases (Schema.optional .text).ofDocument d with fault | o
  · rfl
  · rcases Fields.nil.takeItems "ErrorDetail" 1 1 rest with fault | u <;> rfl

lemma isDetail_record (h : ms.obstacle = none) :
    IsDetail (.record ms) ↔ ∃ o, Message.detailSchema.ofDocument (.record ms) = .ok o := by
  rw [IsDetail, isTextOrNull_of_named]
  constructor
  · rintro ⟨hnames, o, ho⟩
    exact ⟨_, (Schema.ofDocument_record_iff _ (by decide) _ _ h).2
      ⟨hnames, (o, ()), ⟨ho, trivial⟩, _, Fields.close_cons rfl rfl, rfl⟩⟩
  · rintro ⟨m, hm⟩
    obtain ⟨hnames, slots, ⟨ho, -⟩, -⟩ := (Schema.ofDocument_record_iff _ (by decide) _ _ h).1 hm
    exact ⟨hnames, slots.1, ho⟩

lemma isDetail_list {items : Items} (h : items.obstacle = none) :
    IsDetail (.list items) ↔ ∃ o, Message.detailSchema.ofDocument (.list items) = .ok o := by
  rcases items with e | ⟨d, e | ⟨d', rest⟩⟩
  · obtain rfl := ListEnd.eq_closed h
    exact iff_of_true trivial ⟨none, rfl⟩
  · simp only [Items.obstacle, Option.orElse_eq_orElse, Option.orElse_eq_or,
      Option.or_eq_none_iff] at h
    obtain rfl := ListEnd.eq_closed h.2
    have hend : Fields.nil.takeItems "ErrorDetail" 1 1 (.stop .closed) = .ok () := rfl
    rw [IsDetail, isTextOrNull_iff, ofDocument_item, hend]
    rcases (Schema.optional .text).ofDocument d with fault | o
    · simp [bind, Except.bind]
    · simp [bind, Except.bind, Except.map]
  · have hmore : Fields.nil.takeItems "ErrorDetail" 1 1 (.item d' rest) =
        .error .trailingCharacters := rfl
    refine iff_of_false id ?_
    rw [ofDocument_item, hmore]
    rcases (Schema.optional .text).ofDocument d with fault | o
    · simp [bind, Except.bind]
    · simp [bind, Except.bind, Except.map]

lemma isDetail_iff (h : d.obstacle = none) :
    IsDetail d ↔ ∃ o, (Schema.optional Message.detailSchema).ofDocument d = .ok o := by
  by_cases hd : d = .null
  · rw [hd, Schema.ofDocument]
    exact iff_of_true trivial ⟨none, rfl⟩
  · rw [Schema.ofDocument_optional hd]
    cases d with
    | null => exact absurd rfl hd
    | record ms => exact isDetail_record h
    | list items => exact isDetail_list h
    | text r | flag b | number n | broken fault =>
      simp [IsDetail, Schema.ofDocument, Message.detailSchema]

lemma close_fields (slots : Message.fields.Slots) : Message.fields.close slots =
    .ok (slots.1.getD none, slots.2.1.getD none, slots.2.2.1.getD none, slots.2.2.2.1.getD none,
      slots.2.2.2.2.1.getD none, ()) :=
  Fields.close_cons rfl <| Fields.close_cons rfl <| Fields.close_cons rfl <|
    Fields.close_cons rfl <| Fields.close_cons rfl rfl

lemma ofDocument_message (hms : ms.obstacle = none) {m : Message} :
    Message.schema.ofDocument (.record ms) = .ok m ↔ ms.HasNames ∧
      ∃ id status progress error detail,
        IsFilled (Schema.optional .text).ofDocument none (ms.named "id") id ∧
        IsFilled (Schema.optional .text).ofDocument none (ms.named "status") status ∧
        IsFilled (Schema.optional .text).ofDocument none (ms.named "progress") progress ∧
        IsFilled (Schema.optional .text).ofDocument none (ms.named "error") error ∧
        IsFilled (Schema.optional Message.detailSchema).ofDocument none (ms.named "errorDetail")
          detail ∧
        m = ⟨id.getD none, status.getD none, progress.getD none, error.getD none,
          detail.getD none⟩ := by
  rw [Message.schema, Schema.ofDocument_record_iff _ (by decide) _ _ hms]
  refine and_congr_right fun _ => ⟨?_, ?_⟩
  · rintro ⟨⟨id, status, progress, error, detail, _⟩, ⟨hid, hstatus, hprogress, herror, hdetail, -⟩,
      parts, hparts, rfl⟩
    obtain rfl := Except.ok.inj ((close_fields _).symm.trans hparts)
    exact ⟨id, status, progress, error, detail, hid, hstatus, hprogress, herror, hdetail, rfl⟩
  · rintro ⟨id, status, progress, error, detail, hid, hstatus, hprogress, herror, hdetail, rfl⟩
    refine ⟨(id, status, progress, error, detail, ()),
      ⟨hid, hstatus, hprogress, herror, hdetail, trivial⟩, _, close_fields _, rfl⟩

lemma isMessage_iff (hms : ms.obstacle = none) :
    IsMessage ms ↔ ∃ m, Message.schema.ofDocument (.record ms) = .ok m := by
  have hdetail : HasAtMost IsDetail ms "errorDetail" ↔ _ :=
    exists_isFilled_iff fun d hd => isDetail_iff (ms.obstacle_of_mem_named hms d hd)
  constructor
  · rintro ⟨hnames, hid, hstatus, hprogress, herror, hd⟩
    obtain ⟨id, hid⟩ := isTextOrNull_of_named.1 hid
    obtain ⟨status, hstatus⟩ := isTextOrNull_of_named.1 hstatus
    obtain ⟨progress, hprogress⟩ := isTextOrNull_of_named.1 hprogress
    obtain ⟨error, herror⟩ := isTextOrNull_of_named.1 herror
    obtain ⟨detail, hd⟩ := hdetail.1 hd
    exact ⟨_, (ofDocument_message hms).2 ⟨hnames, id, status, progress, error, detail, hid, hstatus,
      hprogress, herror, hd, rfl⟩⟩
  · rintro ⟨m, hm⟩
    obtain ⟨hnames, id, status, progress, error, detail, hid, hstatus, hprogress, herror, hd, -⟩ :=
      (ofDocument_message hms).1 hm
    exact ⟨hnames, isTextOrNull_of_named.2 ⟨id, hid⟩, isTextOrNull_of_named.2 ⟨status, hstatus⟩,
      isTextOrNull_of_named.2 ⟨progress, hprogress⟩, isTextOrNull_of_named.2 ⟨error, herror⟩,
      hdetail.2 ⟨detail, hd⟩⟩

lemma exists_reportedError (hms : ms.obstacle = none) (herror : ms.named "error" = [.text r])
    {m : Message} (hm : Message.schema.ofDocument (.record ms) = .ok m) :
    ∃ e, m.reportedError = some e ∧ (ms.named "errorDetail" = [] → r.content = .ok e) := by
  obtain ⟨-, id, status, progress, error, detail, -, -, -, hfilled, hdetail, rfl⟩ :=
    (ofDocument_message hms).1 hm
  rw [herror] at hfilled
  obtain ⟨o, ho, rfl⟩ := hfilled
  have htext : (Schema.optional .text).ofDocument (.text r) = r.content.map some := rfl
  rw [htext] at ho
  rcases hr : r.content with fault | e
  all_goals
    rw [hr] at ho
    cases ho
  rcases hd : (detail.getD none).join with _ | text
  · exact ⟨e, by simp [Message.reportedError, hd], fun _ => rfl⟩
  · refine ⟨text, by simp [Message.reportedError, hd], fun hnone => ?_⟩
    rw [hnone] at hdetail
    obtain rfl : detail = none := hdetail
    cases hd

/-! ### Lines -/

/-- A line that is a well-formed record with one member that tells of an error. -/
structure Reports (line : String) (ms : Members) (r : Reading String) : Prop where
  parsed : Document.parse (Text.Utf8.encode (Text.trim line)) = (.record ms, false)
  wellFormed : ms.obstacle = none
  error : ms.named "error" = [.text r]

namespace Reports

variable {line : String}

lemma ofText (h : Reports line ms r) :
    Message.schema.ofText (Text.trim line) = Message.schema.ofDocument (.record ms) := by
  rw [Schema.ofText, Schema.ofBytes, h.parsed]
  simp only [bind, Except.bind]
  rcases Message.schema.ofDocument (.record ms) with _ | _ <;> rfl

lemma isEmpty_trim (h : Reports line ms r) : (Text.trim line).isEmpty = false := by
  refine Bool.eq_false_iff.2 fun hempty => ?_
  have hnothing : Text.Utf8.encode "" = [] := rfl
  have hparsed := h.parsed
  rw [String.isEmpty_iff.1 hempty, hnothing, Document.parse, Json.Token.scan] at hparsed
  cases hparsed

lemma checkLine_cases (h : Reports line ms r) :
    (IsMessage ms ∧ ∃ e, checkLine line = .error (.daemon e) ∧
        (ms.named "errorDetail" = [] → r.content = .ok e)) ∨
      ¬ IsMessage ms ∧ checkLine line = .ok (some (Text.trim line)) := by
  rw [checkLine, h.ofText, h.isEmpty_trim, isMessage_iff h.wellFormed]
  rcases hm : Message.schema.ofDocument (.record ms) with fault | m
  · exact .inr ⟨nofun, rfl⟩
  · obtain ⟨e, he, hown⟩ := exists_reportedError h.wellFormed h.error hm
    refine .inl ⟨⟨m, rfl⟩, e, ?_, hown⟩
    simp [he]

end Reports

end RegistrySync.Daemon
