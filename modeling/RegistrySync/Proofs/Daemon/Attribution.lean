import RegistrySync.Daemon.Console
import RegistrySync.Proofs.Daemon.Transfer
import RegistrySync.Proofs.Json.Record
import RegistrySync.Proofs.Text.Lines

/-!
Which printed lines are lines of the logger.

The logger writes the time and the level in front of a text, once for each text. A line of the
daemon's answer that is shown as it is has no line break inside, but the parts of a message can have
some: what stands behind such a break is a line of its own without time and level.
-/

namespace RegistrySync

open Time (Instant)

namespace Time.Instant

lemma newline_not_mem_padded (width n : Nat) : '\n' ∉ (padded width n).toList := by
  rw [padded, String.toList_ofList]
  intro h
  rcases List.mem_append.1 h with h | h
  · exact absurd (List.eq_of_mem_replicate h) (by decide)
  · exact absurd (Nat.isDigit_of_mem_toDigits (by decide) (by decide) h) (by decide)

lemma newline_not_mem_rfc3339 (t : Instant) : '\n' ∉ t.rfc3339.toList := by
  have hyear (y : Int) : '\n' ∉ (yearText y).toList := by
    rw [yearText]
    split_ifs <;> simp [newline_not_mem_padded]
  have hoffset (o : Int) : '\n' ∉ (offsetText o).toList := by
    rw [offsetText]
    split_ifs <;> simp [newline_not_mem_padded]
  simp [rfc3339, newline_not_mem_padded, hyear, hoffset]

end Time.Instant

namespace Logger

/-- What stands in front of a text for the user. -/
def head (now : Instant) : String := now.rfc3339 ++ " [INFO] "

lemma newline_not_mem_head (now : Instant) : '\n' ∉ (head now).toList := by
  rw [head, String.toList_append]
  exact fun h => (List.mem_append.1 h).elim (Instant.newline_not_mem_rfc3339 now) (by decide)

lemma format_info (text : String) (now : Instant) :
    (ofTerminal false).format ⟨.info, text⟩ now = head now ++ Line.text ⟨.info, text⟩ := by
  have hlabel : " " ++ ("[" ++ Level.info.name ++ "] ") = " [INFO] " := by decide
  rw [format, if_neg (by decide), Line.labelled, head, ← hlabel]
  simp only [String.append_assoc]

end Logger

namespace Daemon

open Progress (ofLines readLines)
open Text.Utf8 (decodeLossy)

variable {σ : Type} (t : Transport σ) (now : σ → Instant)

/-- The texts that the answer to a request has to show. -/
def Transport.shown (q : Request) (s : σ) : List String :=
  match (t.exchange q s).1 with
  | .error _ => []
  | .ok answer =>
    if answer.status.isSuccess then (ofLines (readLines answer.stream answer.isWhole)).shown else []

/-- Texts with the times at which they are told. -/
def timed : List String → σ → List (Instant × String)
  | [], _ => []
  | text :: texts, s => (now s, text) :: timed texts (t.print ⟨.info, text⟩ s)

def entry (p : Instant × String) : Stream × String :=
  (.out, (Logger.ofTerminal false).format ⟨.info, p.2⟩ p.1 ++ "\n")

variable {t now}

lemma timed_snd (texts : List String) (s : σ) : (timed t now texts s).map Prod.snd = texts := by
  induction texts generalizing s with
  | nil => rfl
  | cons text texts ih => rw [timed, List.map_cons, ih]

lemma tell_onConsole (texts : List String) (s : σ) (before : List (Stream × String)) :
    Client.tell (t.onConsole (.ofTerminal false) now) texts (s, before) =
      (Client.tell t texts s, before ++ (timed t now texts s).map entry) := by
  induction texts generalizing s before with
  | nil => rw [timed, List.map_nil, List.append_nil]; rfl
  | cons text texts ih =>
    have hrest := ih (t.print ⟨.info, text⟩ s) (before ++ [entry (now s, text)])
    rw [List.append_assoc] at hrest
    exact hrest

lemma exchange_onConsole {g : Logger} (q : Request) (s : σ) (before : List (Stream × String)) :
    (t.onConsole g now).exchange q (s, before) =
      ((t.exchange q s).1, (t.exchange q s).2, before) := by
  rw [Transport.exchange, Transport.exchange]
  rcases q.flaw with _ | fault
  · dsimp only [Transport.onConsole]
    rcases (t.send { q with url := q.url.withoutUser } s).1 with _ | _ | _ | _ <;> rfl
  · rfl

lemma IsTransfer.writes {a : Access} {q : Request} {operation : String}
    {f : Attempt (σ × List (Stream × String)) Unit}
    (hf : IsTransfer (t.onConsole (.ofTerminal false) now) a true q operation f) (s : σ)
    (before : List (Stream × String)) : (f.run (s, before)).2.2 =
      before ++ (timed t now (t.shown q s) (t.exchange q s).2).map entry := by
  have hexchange : (t.onConsole (.ofTerminal false) now).exchange q (s, before) =
      ((t.exchange q s).1, (t.exchange q s).2, before) := exchange_onConsole q s before
  rcases he : (t.exchange q s).1 with fault | answer
  all_goals rw [he] at hexchange
  · obtain ⟨-, hafter⟩ := hf.run_of_not_success (s, before) (by rw [hexchange]; nofun)
    rw [hafter, hexchange, Transport.shown, he]
    exact (List.append_nil _).symm
  · by_cases hgood : answer.status.isSuccess = true
    · have hanswer := congrArg Prod.fst hexchange
      rw [hf.run_of_success hanswer hgood, hexchange, Client.follow_run, Progress.ofBytes_eq_ofLines,
        if_pos rfl, tell_onConsole, Transport.shown, he]
      dsimp only
      rw [if_pos hgood]
    · obtain ⟨-, hafter⟩ := hf.run_of_not_success (s, before) (by
        rw [hexchange]
        rintro _ ⟨⟩
        exact Bool.eq_false_iff.2 hgood)
      rw [hafter, hexchange, Transport.shown, he]
      dsimp only
      rw [if_neg hgood]
      exact (List.append_nil _).symm

lemma printed_entries (told : List (Instant × String)) : printed .out (told.map entry) =
    told.flatMap fun p =>
      (Logger.head p.1).toList ++ (Line.text ⟨.info, p.2⟩).toList ++ ['\n'] := by
  induction told with
  | nil => rfl
  | cons p told ih =>
    rw [List.flatMap_cons, ← ih]
    have hbreak : "\n".toList = ['\n'] := by decide
    simp [printed, entry, Logger.format_info, hbreak]

/-! ### Line breaks in texts -/

lemma checkLine_eq_some {line text : String} (h : checkLine line = .ok (some text)) :
    text = Text.trim line ∨
      ∃ m, Message.schema.ofText (Text.trim line) = .ok m ∧ text = m.display := by
  rw [checkLine] at h
  split at h
  · cases h
  · split at h
    · cases h
      exact .inl rfl
    · rename_i m hm
      split at h
      · cases h
      · split at h
        · cases h
        · cases h
          exact .inr ⟨m, hm, rfl⟩

lemma mem_readLines {bytes line : List UInt8} {isWhole : Bool}
    (h : line ∈ readLines bytes isWhole) :
    (∃ body, line = body ++ [newline] ∧ newline ∉ body) ∨ newline ∉ line := by
  have hsplit := Progress.isSplit_splitLines bytes
  rw [readLines] at h
  dsimp only at h
  split at h
  · rcases List.mem_append.1 h with h | h
    · exact .inl (hsplit.ended line h)
    · obtain rfl := List.mem_singleton.1 h
      exact .inr hsplit.last
  · exact .inl (hsplit.ended line h)

lemma of_newline_mem_shown {bytes : List UInt8} {isWhole : Bool} {text : String}
    (htext : text ∈ (ofLines (readLines bytes isWhole)).shown) (h : '\n' ∈ text.toList) :
    ∃ line ∈ readLines bytes isWhole, ∃ m,
      Message.schema.ofText (Text.trim (decodeLossy line)) = .ok m ∧ text = m.display := by
  obtain ⟨line, hline, hcheck⟩ := Progress.mem_shown_ofLines htext
  rcases checkLine_eq_some hcheck with rfl | hm
  · exact absurd h (Text.newline_not_mem_trim (mem_readLines hline))
  · exact ⟨line, hline, hm⟩

/-- **Lines are the logger's as long as texts are whole.** Take a pull or a push that shows what the
daemon answers, with a logger that is neither quiet nor on a terminal, and whatever bytes the daemon
sends. One text after the other is written to the output, with its time and its level in front of it.
The printed lines begin with what the logger put there, one after the other, exactly if no text has a
line break before its end; and a text that has a line break at all is made up of the parts of a
message. -/
theorem lines_attributed_iff {a : Access} {q : Request} {operation : String}
    {f : Attempt (σ × List (Stream × String)) Unit}
    (hf : IsTransfer (t.onConsole (.ofTerminal false) now) a true q operation f) (s : σ)
    (before : List (Stream × String)) :
    let told := timed t now (t.shown q s) (t.exchange q s).2
    told.map Prod.snd = t.shown q s ∧ (f.run (s, before)).2.2 = before ++ told.map entry ∧
    (List.Forall₂ (fun p line => (Logger.head p.1).toList <+: line) told
        (Text.lines (printed .out (told.map entry))) ↔
      ∀ text ∈ t.shown q s, '\n' ∉ (Line.text ⟨.info, text⟩).toList) ∧
    ∀ text ∈ t.shown q s, '\n' ∈ text.toList →
      ∃ answer, (t.exchange q s).1 = .ok answer ∧ ∃ line ∈ readLines answer.stream answer.isWhole,
        ∃ m, Message.schema.ofText (Text.trim (decodeLossy line)) = .ok m ∧ text = m.display := by
  intro told
  have htexts : told.map Prod.snd = t.shown q s := timed_snd _ _
  refine ⟨htexts, hf.writes s before, ?_, fun text htext hbreak => ?_⟩
  · have hlines := Text.forall₂_lines_iff (fun p : Instant × String => (Logger.head p.1).toList)
      (fun p => (Line.text ⟨.info, p.2⟩).toList) told fun p _ => Logger.newline_not_mem_head p.1
    rw [printed_entries, ← htexts, List.forall_mem_map]
    exact hlines
  · -- a request that came to nothing shows nothing
    rw [Transport.shown] at htext
    split at htext
    · cases htext
    · rename_i answer hanswer
      split at htext
      · exact ⟨answer, hanswer, of_newline_mem_shown htext hbreak⟩
      · cases htext

def statusText (status : String) : String := (Json.record [("status", .text status)]).print

lemma checkLine_statusText {status : String} (hstatus : status ≠ "")
    (htrim : Text.trim (statusText status) = statusText status) :
    checkLine (statusText status) = .ok (some status) := by
  have hmessage : Message.schema.ofText (statusText status) =
      .ok ⟨none, some status, none, none, none⟩ := Json.ofText_record _ [("status", status)]
  have hdisplay : (⟨none, some status, none, none, none⟩ : Message).display = status := by
    simp [Message.display, Option.filter, hstatus, Text.joinWith]
  have hempty : (statusText status).isEmpty = false := rfl
  rw [checkLine]
  simp [htrim, hempty, hmessage, hdisplay, hstatus, Message.reportedError]

lemma shown_statusText (status : String) (hstatus : status ≠ "")
    (htrim : Text.trim (statusText status) = statusText status)
    (hlines : readLines (Text.Utf8.encode (statusText status)) true =
      [Text.Utf8.encode (statusText status)]) {q : Request} (hq : q.flaw = none) :
    (Transport.answering (statusText status)).shown q () = [status] := by
  rw [Transport.shown, exchange_answering _ hq]
  have hgood : (⟨200⟩ : Status).isSuccess = true := by decide
  have hstream : (⟨⟨200⟩, [Text.Utf8.encode (statusText status)], true⟩ : Answer).stream =
      Text.Utf8.encode (statusText status) := List.append_nil _
  dsimp only
  rw [if_pos hgood, hstream, Answer.isWhole, Bool.or_true, hlines, ofLines,
    Text.Utf8.decodeLossy_encode, checkLine_statusText hstatus htrim]
  rfl

/-- A status without line breaks. -/
theorem lines_attributed_iff_status :
    let a : Access := ⟨⟨false, "", "", "127.0.0.1", some 2375, [""], none, none⟩, "1.24", 5000⟩
    let t := (Transport.answering (statusText "pulling")).onConsole (.ofTerminal false)
      fun _ => ⟨0, 0, 0⟩
    statusText "pulling" = "\x7b\"status\":\"pulling\"\x7d" ∧
    List.Forall₂ (fun p line => (Logger.head p.1).toList <+: line) [(⟨0, 0, 0⟩, "pulling")]
      (Text.lines (printed .out
        ((Client.push t a "alpine" false "" true).run ((), [])).2.2)) := by
  intro a t
  have hshown := shown_statusText "pulling" (by decide) (by decide +kernel)
    (by decide +kernel) (q := a.push "alpine" false "") (by decide +kernel)
  obtain ⟨-, hwrites, hiff, -⟩ := lines_attributed_iff
    (.push "alpine" "" false : IsTransfer t a true _ _ _) () []
  rw [hshown] at hwrites hiff
  rw [hwrites]
  exact ⟨by decide +kernel, hiff.2 (by decide +kernel)⟩

/-- A line break that a status spells out gives a line without time and level. -/
theorem line_forged :
    let a : Access := ⟨⟨false, "", "", "127.0.0.1", some 2375, [""], none, none⟩, "1.24", 5000⟩
    let t := (Transport.answering (statusText "pulling\nforged")).onConsole (.ofTerminal false)
      fun _ => ⟨0, 0, 0⟩
    statusText "pulling\nforged" = "\x7b\"status\":\"pulling\\nforged\"\x7d" ∧
    Text.lines (printed .out ((Client.pull t a "alpine" "" false true).run ((), [])).2.2) =
      ["1970-01-01T00:00:00Z [INFO] pulling".toList, "forged".toList] := by
  intro a t
  have hshown := shown_statusText "pulling\nforged" (by decide)
    (by decide +kernel) (by decide +kernel) (q := a.pull "alpine" "" false) (by decide +kernel)
  have hwrites := (IsTransfer.pull "alpine" "" false : IsTransfer t a true _ _ _).writes () []
  rw [hshown] at hwrites
  rw [hwrites]
  exact ⟨by decide +kernel, by decide +kernel⟩

end Daemon

end RegistrySync
