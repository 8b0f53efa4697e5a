import RegistrySync.Proofs.Daemon.Progress

/-!
Pulling and pushing.

Both send one request and follow the messages in answer to it. What is shown and what comes out of it
is a matter of the lines of the answer.
-/

namespace RegistrySync.Daemon

open Progress (ofLines readLines)
open Text.Utf8 (decodeLossy)

variable {σ : Type}

/-- Pulling and pushing, each with its request and its name. -/
inductive IsTransfer (t : Transport σ) (a : Access) (verbose : Bool) :
    Request → String → Attempt σ Unit → Prop
  | pull (reference auth : String) (allTags : Bool) : IsTransfer t a verbose
      (a.pull reference auth allTags) "pull" (Client.pull t a reference auth allTags verbose)
  | push (reference auth : String) (allTags : Bool) : IsTransfer t a verbose
      (a.push reference allTags auth) "push" (Client.push t a reference allTags auth verbose)

namespace Progress

variable {ls ms : List (List UInt8)} {text : String}

lemma mem_shown_ofLines (h : text ∈ (ofLines ls).shown) :
    ∃ l ∈ ls, checkLine (decodeLossy l) = .ok (some text) := by
  induction ls with
  | nil => cases h
  | cons l ls ih =>
    rw [ofLines] at h
    split at h
    · cases h
    · rename_i shown hcheck
      rcases List.mem_append.1 h with h | h
      · exact ⟨l, List.mem_cons_self, by rw [hcheck, Option.mem_toList.1 h]⟩
      · obtain ⟨l', hl', hcheck'⟩ := ih h
        exact ⟨l', List.mem_cons_of_mem l hl', hcheck'⟩

lemma error_ofLines_append (h : ∀ l ∈ ls, ∃ text, checkLine (decodeLossy l) = .ok text) :
    (ofLines (ls ++ ms)).error = (ofLines ms).error := by
  induction ls with
  | nil => rfl
  | cons l ls ih =>
    obtain ⟨⟨text, htext⟩, hls⟩ := List.forall_mem_cons.1 h
    rw [List.cons_append, ofLines, htext]
    exact ih hls

end Progress

namespace IsTransfer

variable {t : Transport σ} {a : Access} {verbose : Bool} {q : Request} {operation : String}
  {f : Attempt σ Unit}

lemma eq_send (h : IsTransfer t a verbose q operation f) :
    f = Client.send t q operation >>= fun answer => Client.follow t answer verbose := by
  cases h <;> rfl

lemma run_of_not_success (h : IsTransfer t a verbose q operation f) (s : σ)
    (hnone : ∀ answer, (t.exchange q s).1 = .ok answer → answer.status.isSuccess = false) :
    (∃ e, (f.run s).1 = .error e) ∧ (f.run s).2 = (t.exchange q s).2 := by
  rw [h.eq_send, attempt_run_bind, ExceptT.run, Client.send]
  rcases he : t.exchange q s with ⟨fault | answer, after⟩
  · exact ⟨⟨_, rfl⟩, rfl⟩
  · rw [he] at hnone
    dsimp only
    rw [Answer.accepted, hnone answer rfl]
    exact ⟨⟨_, rfl⟩, rfl⟩

lemma run_of_success (h : IsTransfer t a verbose q operation f) {s : σ} {answer : Answer}
    (hanswer : (t.exchange q s).1 = .ok answer) (hgood : answer.status.isSuccess = true) :
    f.run s = (Client.follow t answer verbose).run (t.exchange q s).2 := by
  rw [h.eq_send, attempt_run_bind, ExceptT.run, Client.send]
  rcases he : t.exchange q s with ⟨fault | answer', after⟩
  all_goals rw [he] at hanswer
  · cases hanswer
  · cases hanswer
    dsimp only
    rw [Answer.accepted, if_pos hgood]

end IsTransfer

/-! ### One answer for all requests -/

/-- A daemon that gives the same answer to each request. -/
def Transport.answering (body : String) : Transport Unit where
  send _ s := (.answered ⟨⟨200⟩, [Text.Utf8.encode body], true⟩, s)
  sleep _ s := s
  print _ s := s

lemma exchange_answering (body : String) {q : Request} (h : q.flaw = none) (s : Unit) :
    ((Transport.answering body).exchange q s).1 =
      .ok ⟨⟨200⟩, [Text.Utf8.encode body], true⟩ := by
  rw [Transport.exchange, h]
  rfl

end RegistrySync.Daemon
