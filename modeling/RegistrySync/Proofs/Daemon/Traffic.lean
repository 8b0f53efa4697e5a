import RegistrySync.Daemon.Recorder
import RegistrySync.Proofs.Daemon.Progress
import RegistrySync.Session

/-!
What the calls of a program send to the daemon.

An operation on images is one request, which is sent unless it can not be written. Following the
answer sends nothing.
-/

namespace RegistrySync

open Daemon

def Call.request? (a : Access) : Call → Option Request
  | .pull reference auth allTags _ => some (a.pull reference auth allTags)
  | .list _ => some a.list
  | .tag id reference => some (a.tag id reference)
  | .push reference allTags auth _ => some (a.push reference allTags auth)
  | _ => none

namespace Daemon

def Request.sent? (q : Request) : Option Request :=
  if q.flaw.isNone then some { q with url := q.url.withoutUser } else none

def requests (deeds : List Deed) : List Request := (deeds.filterMap Deed.request?).reverse

lemma requests_cons (d : Deed) (deeds : List Deed) :
    requests (d :: deeds) = requests deeds ++ d.request?.toList := by
  rw [requests, requests, List.filterMap_cons]
  rcases d.request? with _ | q
  · simp
  · simp

namespace Client

variable {σ α : Type} (t : Transport σ) (s : σ × List Deed) (operation : String)

lemma send_recorded (q : Request) :
    (send t.recorded q operation).run s =
      (((send t q operation).run s.1).1, ((send t q operation).run s.1).2,
        q.sent?.toList.map .request ++ s.2) := by
  rw [ExceptT.run, ExceptT.run, send, send, Transport.exchange, Transport.exchange, Request.sent?]
  dsimp only
  rcases q.flaw with _ | f
  · dsimp only [Transport.recorded]
    rcases (t.send { q with url := q.url.withoutUser } s.1).1 with _ | _ | _ | _ <;> rfl
  · rfl

lemma requests_send (q : Request) :
    requests ((send t.recorded q operation).run s).2.2 = requests s.2 ++ q.sent?.toList := by
  rw [send_recorded]
  rcases q.sent? with _ | r
  · simp
  · exact requests_cons (.request r) s.2

lemma requests_send_bind (q : Request) (f : Answer → Attempt (σ × List Deed) α)
    (hf : ∀ answer after, requests ((f answer).run after).2.2 = requests after.2) :
    requests ((send t.recorded q operation >>= f).run s).2.2 =
      requests s.2 ++ q.sent?.toList := by
  rw [← requests_send t s operation, attempt_run_bind]
  rcases (send t.recorded q operation).run s with ⟨_ | answer, after⟩
  · rfl
  · exact hf answer after

lemma requests_tell (texts : List String) :
    requests (tell t.recorded texts s).2 = requests s.2 := by
  induction texts generalizing s with
  | nil => rfl
  | cons text texts ih =>
    have hline : requests (t.recorded.print ⟨.info, text⟩ s).2 = requests s.2 ++ [] :=
      requests_cons _ _
    rw [← (requests s.2).append_nil, ← hline]
    exact ih _

lemma requests_follow (answer : Answer) (verbose : Bool) :
    requests ((follow t.recorded answer verbose).run s).2.2 = requests s.2 := by
  rw [follow_run]
  split
  · exact requests_tell t s _
  · rfl

variable (a : Access) (reference auth : String) (allTags verbose : Bool)

lemma requests_pull :
    requests ((pull t.recorded a reference auth allTags verbose).run s).2.2 =
      requests s.2 ++ (a.pull reference auth allTags).sent?.toList := by
  rw [pull]
  exact requests_send_bind t s _ _ _ fun answer after => requests_follow t after answer verbose

lemma requests_list :
    requests ((list t.recorded a reference).run s).2.2 = requests s.2 ++ a.list.sent?.toList := by
  -- matching `requests_send_bind` with the whole would evaluate the address of the request
  rw [list, attempt_run_bind, ← requests_send t s "list"]
  rcases (send t.recorded a.list "list").run s with ⟨_ | answer, after⟩
  · rfl
  · dsimp only
    rcases answer.body? with _ | body
    · rfl
    · rfl

lemma list_ok (s : σ) {images : List Image} (h : ((list t a reference).run s).1 = .ok images) :
    ∃ inventory, images = Image.matching (Reference.parse reference) inventory := by
  rw [list, attempt_run_bind] at h
  rcases hs : (send t a.list "list").run s with ⟨_ | answer, after⟩
  all_goals
    rw [hs] at h
    dsimp only at h
  · cases h
  · rcases hb : answer.body? with _ | body
    all_goals rw [hb] at h
    · cases h
    · have himages : imagesOf reference body = .ok images := h
      rw [imagesOf] at himages
      split at himages
      · cases himages
      · cases himages
        exact ⟨_, rfl⟩

lemma requests_tag (id : String) :
    requests ((tag t.recorded a id reference).run s).2.2 =
      requests s.2 ++ (a.tag id reference).sent?.toList := by
  rw [tag]
  exact requests_send_bind t s _ _ _ fun _ _ => rfl

lemma requests_push :
    requests ((push t.recorded a reference allTags auth verbose).run s).2.2 =
      requests s.2 ++ (a.push reference allTags auth).sent?.toList := by
  rw [push]
  exact requests_send_bind t s _ _ _ fun answer after => requests_follow t after answer verbose

end Client

end Daemon

namespace World

variable {σ τ : Type} (t : Transport σ) (a : Access) (r : Command.Runner τ) (program : String)

lemma requests_answer {c : Call} {q : Request} (h : c.request? a = some q)
    (s : (σ × List Deed) × τ) :
    requests ((ofParts t.recorded a r program).answer c s).2.1.2 =
      requests s.1.2 ++ q.sent?.toList := by
  cases c with
  | pull reference auth allTags verbose =>
    cases h
    rw [← Client.requests_pull t s.1 a reference auth allTags verbose, ExceptT.run]
    dsimp only [ofParts]
    rcases Client.pull t.recorded a reference auth allTags verbose s.1
    rfl
  | list reference =>
    cases h
    rw [← Client.requests_list t s.1 a reference, ExceptT.run]
    dsimp only [ofParts]
    rcases Client.list t.recorded a reference s.1
    rfl
  | tag id reference =>
    cases h
    rw [← Client.requests_tag t s.1 a reference id, ExceptT.run]
    dsimp only [ofParts]
    rcases Client.tag t.recorded a id reference s.1
    rfl
  | push reference allTags auth verbose =>
    cases h
    rw [← Client.requests_push t s.1 a reference auth allTags verbose, ExceptT.run]
    dsimp only [ofParts]
    rcases Client.push t.recorded a reference allTags auth verbose s.1
    rfl
  | ping => cases h
  | issueLogin => cases h
  | ensureRepository => cases h

lemma answer_list_ok {reference : String} {s : (σ × List Deed) × τ} {images : List Image}
    (h : ((ofParts t.recorded a r program).answer (.list reference) s).1 = .ok images) :
    ∃ inventory, images = Image.matching (Reference.parse reference) inventory := by
  refine Client.list_ok t.recorded a reference s.1 ?_
  revert h
  rw [ExceptT.run]
  dsimp only [ofParts]
  rcases Client.list t.recorded a reference s.1
  exact id

end World

end RegistrySync
