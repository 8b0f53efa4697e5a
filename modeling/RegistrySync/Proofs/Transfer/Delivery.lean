import Mathlib.Data.List.Basic
import RegistrySync.Proofs.Daemon.Traffic
import RegistrySync.Proofs.Image.Inventory
import RegistrySync.Proofs.Image.Tagging
import RegistrySync.Proofs.Transfer.Course
import RegistrySync.Proofs.Url.Form
import RegistrySync.Proofs.World.Invariant

/-!
What a transfer sends to a daemon.

The target reference is taken apart, put together with a tag, and taken apart again on the way to a
request that tags; for the push it is taken apart once. Both ways lead to one repository name.
-/

namespace RegistrySync

open Daemon Reference World

namespace Daemon.Access

variable (a : Access)

def tagIn (name id tag : String) : Request :=
  ⟨.post, (a.endpoint ("/images/" ++ id ++ "/tag")).withPairs [("repo", name), ("tag", tag)],
    none, none⟩

def pushAll (name auth : String) : Request :=
  ⟨.post, a.endpoint ("/images/" ++ name ++ "/push"), some (Credential.headerValue auth), none⟩

variable {a}

lemma pairs_tagIn {name id tag : String} : (a.tagIn name id tag).url.pairs =
    (a.endpoint ("/images/" ++ id ++ "/tag")).pairs ++ [("repo", name), ("tag", tag)] := by
  rw [tagIn, Url.pairs_withPairs]

end Daemon.Access

def Exchange.sent (a : Access) (xs : List Exchange) : List Request :=
  xs.filterMap fun x => (x.call.request? a).bind Request.sent?

namespace Transfer

variable {σ τ : Type} {I : σ → Prop} {P : Call → Prop} {w : World σ} {m : Transfer}

/-! ### What a transfer keeps -/

section

variable (hw : w.Maintains P I)
include hw

lemma keeps_list {reference : String} (h : P (.list reference)) : Keeps I (m.list w reference) := by
  refine Keeps.bind (Keeps.ask hw h) fun r => ?_
  rcases r with e | images
  · exact Keeps.bind (Keeps.say hw _ _) fun _ => Keeps.pure _
  · exact Keeps.pure _

lemma keeps_listAll (h : ∀ reference, P (.list reference)) (references : List String) :
    Keeps I (m.listAll w references) := by
  induction references with
  | nil => exact Keeps.pure _
  | cons reference references ih =>
    exact Keeps.bind (keeps_list hw (h reference)) fun _ => Keeps.bind ih fun _ => Keeps.pure _

lemma keeps_run (hpull : ∀ reference, P (m.pullCall reference))
    (hlist : ∀ reference, P (.list reference)) (htag : ∀ id reference, P (.tag id reference))
    (hpush : P m.pushCall) : Keeps I (m.run w).run := by
  have hline l n : Keeps I (liftM (w.say l n) : World.Attempt σ Unit).run :=
    Keeps.lift (Keeps.say hw l n)
  have hpulls := Keeps.attempt_forM (f := m.pull w) (fun _ => Keeps.askFor hw (hpull _) _)
  have htags := Keeps.attempt_forM (f := rename w) (fun _ => Keeps.askFor hw (htag _ _) _)
  refine Keeps.attempt_bind (hline _ _) fun _ => ?_
  refine Keeps.attempt_bind (hpulls _) fun _ => ?_
  refine Keeps.attempt_bind (hline _ _) fun _ => ?_
  refine Keeps.attempt_bind (Keeps.lift (keeps_listAll hw hlist _)) fun images => ?_
  refine Keeps.attempt_bind (Keeps.attempt_forM (fun _ => hline _ _) images) fun _ => ?_
  refine Keeps.attempt_bind (hline _ _) fun _ => ?_
  refine Keeps.attempt_bind (htags _) fun _ => ?_
  exact Keeps.attempt_bind (hline _ _) fun _ => Keeps.askFor hw hpush _

end

lemma course_keeps {I : Kept σ → Prop} (hw : w.transcribed.Maintains P I)
    (hpull : ∀ reference, P (m.pullCall reference)) (hlist : ∀ reference, P (.list reference))
    (htag : ∀ id reference, P (.tag id reference)) (hpush : P m.pushCall) {s : σ}
    (h : I (s, [])) :
    ∃ pulls lists tags pushes, m.IsCourse pulls lists tags pushes (m.run w s).1 ∧
      I ((m.run w s).2, pulls ++ lists ++ tags ++ pushes) := by
  have hrun : m.run w s = ((m.run w.transcribed (s, [])).1, (m.run w.transcribed (s, [])).2.1) :=
    run_tracks (transcribed_extends w) (s, [])
  have hkept : I (m.run w.transcribed (s, [])).2 := keeps_run hw hpull hlist htag hpush (s, []) h
  obtain ⟨xs, hx, pulls, lists, tags, pushes, hxs, hc⟩ := adds_run (w := w) (t := m) s []
  refine ⟨pulls, lists, tags, pushes, ?_, ?_⟩
  · rw [hrun]
    exact hc
  · rw [hrun, ← hxs, ← List.nil_append xs, ← hx]
    exact hkept

/-! ### What the transcript tells -/

/-- The transcript tells what was sent, and all images in it carry tags that can be written. -/
structure IsToldBy (a : Access) (before : List Request) (s : Kept ((σ × List Deed) × τ)) :
    Prop where
  sent : requests s.1.1.2 = before ++ Exchange.sent a s.2
  tags : ∀ x ∈ s.2, ∀ i ∈ x.images, ∀ tag ∈ i.tags, isTag tag

variable (t : Transport σ) (a : Access) (r : Command.Runner τ) (program : String)

lemma isTag_images {c : Call} {s : (σ × List Deed) × τ} {i : Image} {tag : String}
    (hi : i ∈ (⟨c, ((ofParts t.recorded a r program).answer c s).1⟩ : Exchange).images)
    (ht : tag ∈ i.tags) : isTag tag := by
  cases c with
  | list reference =>
    rcases hl : ((ofParts t.recorded a r program).answer (.list reference) s).1 with _ | images
    all_goals rw [hl] at hi
    · cases hi
    · obtain ⟨_, rfl⟩ := answer_list_ok t a r program hl
      exact Image.isTag_matching hi ht
  | _ => cases hi

lemma maintains_isToldBy (before : List Request) :
    (ofParts t.recorded a r program).transcribed.Maintains (fun c => (c.request? a).isSome)
      (IsToldBy a before) := by
  refine ⟨fun c s hc h => ?_, fun l s h => ⟨?_, h.tags⟩⟩
  · -- a call adds one exchange to the transcript and its request to what was sent
    obtain ⟨q, hq⟩ := Option.isSome_iff_exists.1 hc
    obtain ⟨x, hx⟩ : ∃ x : Exchange, x = ⟨c, ((ofParts t.recorded a r program).answer c s.1).1⟩ :=
      ⟨_, rfl⟩
    have hone : Exchange.sent a [x] = q.sent?.toList := by
      rw [hx, Exchange.sent, List.filterMap_cons, hq, Option.bind_some]
      rcases q.sent? with _ | q' <;> rfl
    have hafter : ((ofParts t.recorded a r program).transcribed.answer c s).2 =
        (((ofParts t.recorded a r program).answer c s.1).2, s.2 ++ [x]) := by rw [hx]; rfl
    rw [hafter]
    refine ⟨?_, fun y hy => ?_⟩
    · have hsent := requests_answer t a r program hq s.1
      rw [h.sent, ← hone, List.append_assoc] at hsent
      rw [Exchange.sent, List.filterMap_append]
      exact hsent
    · rcases List.mem_append.1 hy with hy | hy
      · exact h.tags y hy
      · obtain rfl := List.mem_singleton.1 hy
        subst hx
        exact fun i hi tag ht => isTag_images t a r program hi ht
  · -- a line adds to neither
    have hline : requests (.line l :: s.1.1.2) = requests s.1.1.2 ++ [] := requests_cons _ _
    rw [List.append_nil, h.sent] at hline
    exact hline

/-! ### One repository -/

variable {t a r program}

lemma tag_names {images : List Image} (hslash : m.target.toList.head? ≠ some '/')
    (hpath : (split m.target).2 ≠ "") (hi : ∀ i ∈ images, ∀ tag ∈ i.tags, isTag tag) :
    (m.names images).map (fun n => a.tag n.1 n.2) =
      images.flatMap fun i => i.tags.map (a.tagIn (parse m.target).name i.id) := by
  rw [names, List.map_flatMap]
  refine List.flatMap_congr fun i hm => ?_
  rw [List.map_map]
  refine List.map_congr_left fun tag htag => ?_
  have hparse : parse (tagged (parse m.target).name tag) =
      { parse m.target with tag := some tag } :=
    parse_name_tagged hslash hpath (hi i hm tag htag)
  have hrequest : a.tag i.id (tagged (parse m.target).name tag) =
      a.tagIn (parse m.target).name i.id tag := by
    rw [Access.tag, hparse]
    rfl
  exact hrequest

/-- What a transfer sends for its calls. -/
structure IsDelivery (a : Access) (m : Transfer) (pulls lists tags pushes : List Exchange)
    (sent : List Request) : Prop where
  sent : sent = Exchange.sent a (pulls ++ lists ++ tags ++ pushes)
  /-- Each image that was listed is given each of its tags, in turn, in the target repository. -/
  tags : tags.map (·.call.request? a) <+:
    ((lists.flatMap Exchange.images).flatMap fun i =>
      i.tags.map (a.tagIn (parse m.target).name i.id)).map some
  /-- This repository is pushed. -/
  pushes : ∀ x ∈ pushes, x.call.request? a = some (a.pushAll (parse m.target).name m.targetAuth)

/-- **A transfer tags what it pushes.** If the target begins with no slash and has a path, then
whatever images are to be tagged, the requests for that ask for the name that is read from the
target, each with the tag of the image as it is, and the query is read so. In the world of a daemon
a transfer sends such requests for the images that the daemon lists, and the repository that it
pushes is the one of this name. -/
theorem tags_what_it_pushes (t : Transport σ) (a : Access) (r : Command.Runner τ)
    (program : String) (m : Transfer) (hslash : m.target.toList.head? ≠ some '/')
    (hpath : (split m.target).2 ≠ "") :
    (∀ images : List Image, (∀ i ∈ images, ∀ tag ∈ i.tags, isTag tag) →
      (m.names images).map (fun n => a.tag n.1 n.2) =
        images.flatMap fun i => i.tags.map (a.tagIn (parse m.target).name i.id)) ∧
    (∀ id tag, (a.tagIn (parse m.target).name id tag).url.pairs =
      (a.endpoint ("/images/" ++ id ++ "/tag")).pairs ++
        [("repo", (parse m.target).name), ("tag", tag)]) ∧
    ∀ s, ∃ pulls lists tags pushes sent,
      m.IsCourse pulls lists tags pushes (m.run (ofParts t.recorded a r program) s).1 ∧
      requests (m.run (ofParts t.recorded a r program) s).2.1.2 = requests s.1.2 ++ sent ∧
      m.IsDelivery a pulls lists tags pushes sent := by
  refine ⟨fun images => tag_names hslash hpath, fun _ _ => Access.pairs_tagIn, fun s => ?_⟩
  obtain ⟨pulls, lists, tags, pushes, hc, htold⟩ :=
    course_keeps (m := m) (maintains_isToldBy t a r program (requests s.1.2)) (fun _ => rfl)
      (fun _ => rfl) (fun _ _ => rfl) rfl (s := s) ⟨(List.append_nil _).symm, nofun⟩
  refine ⟨pulls, lists, tags, pushes, _, hc, htold.sent, rfl, ?_, fun x hx => ?_⟩
  · have hi : ∀ i ∈ lists.flatMap Exchange.images, ∀ tag ∈ i.tags, isTag tag := by
      intro i hi
      obtain ⟨x, hx, hi⟩ := List.mem_flatMap.1 hi
      exact htold.tags x (by simp [hx]) i hi
    have hcalls := hc.isPrefix_tagCalls.map (Call.request? a)
    rw [← names_calls, List.map_map, List.map_map] at hcalls
    rw [← tag_names hslash hpath hi, List.map_map]
    exact hcalls
  · rw [hc.call_of_mem_pushes hx]
    rfl

/-- A target with a port, a colon and an empty segment in its path, a slash at its end, a tag and a
digest. -/
theorem tags_what_it_pushes_port :
    let m : Transfer := ⟨"alpine", "", "localhost:5000/a:b//c/:9@sha256:0", "", [], false⟩
    let a : Access := ⟨⟨false, "", "", "127.0.0.1", some 2375, [""], none, none⟩, "1.24", 5000⟩
    let body := "[\x7b\"Id\":\"sha256:1\",\"RepoTags\":[\"alpine:3.20\"]\x7d]"
    let t : Transport Unit :=
      ⟨fun _ s => (.answered ⟨⟨200⟩, [Text.Utf8.encode body], true⟩, s), fun _ s => s, fun _ s => s⟩
    let r : Command.Runner Unit := ⟨fun _ _ s => (.notStarted "", s)⟩
    let w := ofParts t.recorded a r "aws"
    m.target.toList.head? ≠ some '/' ∧ (split m.target).2 ≠ "" ∧
    (∃ pulls lists tags pushes sent,
      m.IsCourse pulls lists tags pushes (m.run w (((), []), ())).1 ∧
      requests (m.run w (((), []), ())).2.1.2 = sent ∧
      m.IsDelivery a pulls lists tags pushes sent) ∧
    (requests (m.run w (((), []), ())).2.1.2).map (·.url.text) =
      ["http://127.0.0.1:2375/v1.24/images/create?fromImage=alpine",
        "http://127.0.0.1:2375/v1.24/images/json",
        "http://127.0.0.1:2375/v1.24/images/sha256:1/tag" ++
          "?repo=localhost%3A5000%2Fa%3Ab%2F%2Fc&tag=3.20",
        "http://127.0.0.1:2375/v1.24/images/localhost:5000/a:b//c/push"] := by
  intro m a body t r w
  have hslash : m.target.toList.head? ≠ some '/' := by decide
  have hpath : (split m.target).2 ≠ "" := by decide
  exact ⟨hslash, hpath, (tags_what_it_pushes t a r "aws" m hslash hpath).2.2 (((), []), ()),
    by decide +kernel⟩

end Transfer

end RegistrySync
