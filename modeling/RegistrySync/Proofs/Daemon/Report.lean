import RegistrySync.Proofs.Daemon.Message
import RegistrySync.Proofs.Daemon.Transfer
import RegistrySync.Proofs.Json.Record

/-!
Errors that the daemon reports.

A line that reports an error fails the pull or the push if the line is a message. If it is none, for
another member that is not of its kind, the error is shown at most, and the transfer goes on.
-/

namespace RegistrySync.Daemon

open Json (Members Reading)
open Progress (ofLines readLines)
open Text.Utf8 (decodeLossy)

variable {σ : Type} {t : Transport σ} {a : Access} {verbose : Bool} {q : Request}
  {operation : String} {f : Attempt σ Unit} {s : σ} {answer : Answer}

lemma IsTransfer.result (hf : IsTransfer t a verbose q operation f)
    (hanswer : (t.exchange q s).1 = .ok answer) (hgood : answer.status.isSuccess = true)
    (hwhole : answer.isWhole = true) : (f.run s).1 =
      (ofLines (readLines answer.stream true)).error.elim (.ok ()) .error := by
  rw [hf.run_of_success hanswer hgood, Client.follow_run, Progress.ofBytes_eq_ofLines, hwhole]
  rcases (ofLines (readLines answer.stream true)).error with _ | e <;> rfl

/-- **A reported error fails a transfer if it comes in a message.** Take a pull or a push with an
answer that is good and came to its end, and a line of it that is a well-formed record with one
member that tells of an error, with no line before it in error. If all names in it can be used, those
of a message stand in it once, and each has a value of its kind, then the transfer fails with an error
of the daemon, the one that is told of unless there are details. Otherwise the line is shown as it is,
and the transfer succeeds as long as no later line is in error. -/
theorem reported_error_fails_iff (hf : IsTransfer t a verbose q operation f)
    (hanswer : (t.exchange q s).1 = .ok answer) (hgood : answer.status.isSuccess = true)
    (hwhole : answer.isWhole = true) {before after : List (List UInt8)} {line : List UInt8}
    (hlines : readLines answer.stream true = before ++ line :: after)
    (hbefore : ∀ l ∈ before, ∃ text, checkLine (decodeLossy l) = .ok text)
    {ms : Members} {r : Reading String} (h : Reports (decodeLossy line) ms r) :
    (IsMessage ms → ∃ e, (f.run s).1 = .error (.daemon e) ∧
      (ms.named "errorDetail" = [] → r.content = .ok e)) ∧
    (¬ IsMessage ms →
      checkLine (decodeLossy line) = .ok (some (Text.trim (decodeLossy line))) ∧
      ((f.run s).1 = .ok () ↔ ∀ l ∈ after, ∃ text, checkLine (decodeLossy l) = .ok text)) := by
  have hresult := hf.result hanswer hgood hwhole
  rw [hlines, Progress.error_ofLines_append hbefore, ofLines] at hresult
  rcases h.checkLine_cases with ⟨hmessage, e, hcheck, hown⟩ | ⟨hmessage, hcheck⟩
  all_goals rw [hcheck] at hresult
  · exact ⟨fun _ => ⟨e, hresult, hown⟩, fun hno => absurd hmessage hno⟩
  · refine ⟨fun hyes => absurd hyes hmessage, fun _ => ⟨hcheck, ?_⟩⟩
    rw [hresult, ← Progress.error_ofLines]
    dsimp only
    rcases (ofLines after).error with _ | e
    · simp
    · simp

def boom : Reading String := ⟨.ok "boom", none⟩

lemma reports_record (ms : List (String × String)) {line : String}
    (hline : line = (Json.record (ms.map Json.member)).print) (htrim : Text.trim line = line)
    (hwell : (Members.ofTexts ms).obstacle = none)
    (herror : (Members.ofTexts ms).named "error" = [.text boom]) :
    Reports (decodeLossy (Text.Utf8.encode line)) (Members.ofTexts ms) boom := by
  rw [Text.Utf8.decodeLossy_encode]
  refine ⟨?_, hwell, herror⟩
  rw [htrim, hline, Json.parse_record]

/-- An error without details. -/
theorem reported_error_fails_iff_boom :
    let a : Access := ⟨⟨false, "", "", "127.0.0.1", some 2375, [""], none, none⟩, "1.24", 5000⟩
    let line := "\x7b\"error\":\"boom\"\x7d"
    let t := Transport.answering line
    ((Client.push t a "alpine" false "" true).run ()).1 = .error (.daemon "boom") := by
  intro a line t
  have hline : line = (Json.record ([("error", "boom")].map Json.member)).print := by
    decide +kernel
  have hreports := reports_record _ hline (by decide +kernel) rfl rfl
  have hmessage : IsMessage (Members.ofTexts [("error", "boom")]) :=
    ⟨⟨⟨_, rfl⟩, trivial⟩, .inl rfl, .inl rfl, .inl rfl, .inr ⟨_, rfl, _, rfl⟩, .inl rfl⟩
  have hlines : readLines (⟨⟨200⟩, [Text.Utf8.encode line], true⟩ : Answer).stream true =
      [] ++ Text.Utf8.encode line :: [] := by decide +kernel
  obtain ⟨hfails, -⟩ := reported_error_fails_iff
    (.push "alpine" "" false : IsTransfer t a true _ _ _)
    (exchange_answering _ (by decide +kernel) ()) (by decide) rfl hlines nofun hreports
  obtain ⟨e, he, hown⟩ := hfails hmessage
  obtain rfl : "boom" = e := Except.ok.inj (hown rfl)
  exact he

/-- An error whose details are a text is shown, and the pull succeeds. -/
theorem reported_error_swallowed :
    let a : Access := ⟨⟨false, "", "", "127.0.0.1", some 2375, [""], none, none⟩, "1.24", 5000⟩
    let line := "\x7b\"error\":\"boom\",\"errorDetail\":\"boom\"\x7d"
    let t := Transport.answering line
    Reports line (Members.ofTexts [("error", "boom"), ("errorDetail", "boom")]) boom ∧
    ((Client.pull t a "alpine" "" false true).run ()).1 = .ok () := by
  intro a line t
  have hline : line =
      (Json.record ([("error", "boom"), ("errorDetail", "boom")].map Json.member)).print := by
    decide +kernel
  have hreports := reports_record _ hline (by decide +kernel) rfl rfl
  have hno : ¬ IsMessage (Members.ofTexts [("error", "boom"), ("errorDetail", "boom")]) := by
    rintro ⟨-, -, -, -, -, hdetail⟩
    rcases hdetail with hnone | ⟨d, hd, hkind⟩
    · cases hnone
    · cases hd
      exact hkind
  have hlines : readLines (Text.Utf8.encode line) true = [Text.Utf8.encode line] := by
    decide +kernel
  have hresult := (IsTransfer.pull "alpine" "" false : IsTransfer t a true _ _ _).result
    (exchange_answering line (by decide +kernel) ()) (by decide) rfl
  have hcheck := (hreports.checkLine_cases.resolve_left fun h => hno h.1).2
  have hstream : (⟨⟨200⟩, [Text.Utf8.encode line], true⟩ : Answer).stream =
      Text.Utf8.encode line := List.append_nil _
  rw [hstream, hlines, ofLines, hcheck] at hresult
  rw [Text.Utf8.decodeLossy_encode] at hreports
  exact ⟨hreports, hresult⟩

end RegistrySync.Daemon
