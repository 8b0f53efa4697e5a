import RegistrySync.Proofs.Settings.Violation
import RegistrySync.Proofs.Transfer.Delivery
import RegistrySync.Round

/-!
How a daemon is asked for a tag that is listed.

The tag is put behind the source reference as it stands, and the daemon is asked for what the whole
is read as. That is the tag in the source repository only if the source reference takes tags.
-/

namespace RegistrySync

open Daemon Reference World

namespace Daemon.Access

variable {a : Access} {reference auth : String}

lemma pairs_pull : (a.pull reference auth false).url.pairs =
    (a.endpoint "/images/create").pairs ++
      [("fromImage", (parse reference).name), ("tag", (parse reference).tagOrLatest)] := by
  simp only [pull, Url.pairs_withPairs, Bool.false_eq_true, if_false]

end Daemon.Access

variable {s : Settings} {task : Task} {m : Mapping} {tag : String}

lemma listed_ne_empty (hs : s.violation = none) (ht : task ∈ s.toTasks) (hm : m ∈ task.mappings)
    (htag : tag ∈ m.tags) : tag ≠ "" := by
  obtain ⟨written, hwritten, rfl⟩ := List.mem_map.1 ht
  obtain ⟨mapping, hmapping, rfl⟩ := List.mem_map.1 hm
  have hblank := ((Settings.violation_eq_none.1 hs).each written hwritten).tags mapping hmapping tag
    htag
  rintro rfl
  exact hblank rfl

lemma Transfer.mem_requested {t : Transfer} (h : tag ∈ t.tags) :
    tagged t.source tag ∈ t.requested ∧ t.isWhole = false := by
  have hne : t.tags.isEmpty = false := by
    rw [List.isEmpty_eq_false_iff]
    exact List.ne_nil_of_mem h
  rw [requested, isWhole, hne]
  exact ⟨List.mem_map_of_mem h, rfl⟩

/-- **A listed tag is asked for where it can be put.** In settings without a violation each listed
tag is pulled by itself, behind the source reference of its mapping, and one request is made for it.
If the tag has no mark of a reference in it, the request is for this tag in the repository that the
source reference names exactly if the source reference takes tags, that is, if it has no digest and
no tag of its own and is more than a host; or else if it has a digest and happens to be read with
this tag. -/
theorem listed_tag_asked_iff {σ τ : Type} (hs : s.violation = none) (ht : task ∈ s.toTasks)
    (hm : m ∈ task.mappings) (htag : tag ∈ m.tags)
    (hmarks : '/' ∉ tag.toList ∧ ':' ∉ tag.toList ∧ '@' ∉ tag.toList)
    (sourceAuth targetAuth : String) (d : Transport σ) (a : Access) (r : Command.Runner τ)
    (program : String) :
    let t := task.transfer m sourceAuth targetAuth
    let source := (task.refs m).1
    let q := a.pull (Transfer.tagged source tag) sourceAuth false
    Transfer.tagged source tag ∈ t.requested ∧
    (∀ before, requests ((t.pull (ofParts d.recorded a r program)
      (Transfer.tagged source tag)).run before).2.1.2 = requests before.1.2 ++ q.sent?.toList) ∧
    (q.url.pairs = (a.endpoint "/images/create").pairs ++
        [("fromImage", (parse source).name), ("tag", tag)] ↔
      TakesTag source ∨ '@' ∈ source.toList ∧ (parse source).tagOrLatest = tag) := by
  intro t source q
  obtain ⟨hrequested, hwhole⟩ : _ ∧ t.tags.isEmpty = false := Transfer.mem_requested (t := t) htag
  have hcall : (t.pullCall (Transfer.tagged source tag)).request? a = some q := by
    rw [Transfer.pullCall, hwhole]
    rfl
  have hisTag : isTag tag := by
    refine isTag_iff.2 ⟨?_, hmarks⟩
    simpa using listed_ne_empty hs ht hm htag
  refine ⟨hrequested, fun before => requests_answer d a r program hcall before, ?_⟩
  rw [← parse_tagged_iff hisTag, Access.pairs_pull, List.append_cancel_left_eq]
  simp [Transfer.tagged]

/-- A path of one segment behind a host and a folder. -/
theorem listed_tag_asked_iff_alpine :
    let mapping : Settings.Mapping := ⟨" alpine/", "", ["3.18"]⟩
    let task : Settings.Task :=
      ⟨"mirror", 0, false, ⟨"docker.io/library/", ""⟩, ⟨"quay.io/mirror", ""⟩, [mapping]⟩
    let s : Settings := ⟨.default, [task]⟩
    let source := (task.task.refs mapping.mapping).1
    let a : Access := ⟨⟨false, "", "", "127.0.0.1", some 2375, [""], none, none⟩, "1.24", 5000⟩
    s.violation = none ∧ task.task ∈ s.toTasks ∧ mapping.mapping ∈ task.task.mappings ∧
    "3.18" ∈ mapping.mapping.tags ∧
    ('/' ∉ "3.18".toList ∧ ':' ∉ "3.18".toList ∧ '@' ∉ "3.18".toList) ∧
    (a.pull (Transfer.tagged source "3.18") "" false).url.pairs =
      (a.endpoint "/images/create").pairs ++
        [("fromImage", "docker.io/library/alpine"), ("tag", "3.18")] := by
  intro mapping task s source a
  have hs : s.violation = none := by decide +kernel
  have htask : task.task ∈ s.toTasks := List.mem_singleton_self _
  have hm : mapping.mapping ∈ task.task.mappings := List.mem_singleton_self _
  have htag : "3.18" ∈ mapping.mapping.tags := List.mem_singleton_self _
  have hmarks : '/' ∉ "3.18".toList ∧ ':' ∉ "3.18".toList ∧ '@' ∉ "3.18".toList := by decide
  have htakes : TakesTag source := ⟨by decide, by decide, by decide⟩
  have hname : (parse source).name = "docker.io/library/alpine" := by decide
  have hasked := (listed_tag_asked_iff hs htask hm htag hmarks "" "" .unreachable a
    ⟨fun _ _ (n : Nat) => (.notStarted "", n)⟩ "aws").2.2.2 (.inl htakes)
  rw [hname] at hasked
  exact ⟨hs, htask, hm, htag, hmarks, hasked⟩

/-- Behind a digest, the latest image is asked for in the place of the one that is listed. -/
theorem listed_tag_dropped :
    let digest := "sha256:c5b1261d6d3e43071626931fc004f70149baeba2c8ec672bd4f27761f8e1ad6b"
    let mapping : Settings.Mapping := ⟨"alpine@" ++ digest, "alpine", ["3.18"]⟩
    let task : Settings.Task :=
      ⟨"mirror", 0, false, ⟨"docker.io/library", ""⟩, ⟨"quay.io/mirror", ""⟩, [mapping]⟩
    let s : Settings := ⟨.default, [task]⟩
    let source := (task.task.refs mapping.mapping).1
    let a : Access := ⟨⟨false, "", "", "127.0.0.1", some 2375, [""], none, none⟩, "1.24", 5000⟩
    let q := a.pull (Transfer.tagged source "3.18") "" false
    s.violation = none ∧ task.task ∈ s.toTasks ∧ mapping.mapping ∈ task.task.mappings ∧
    "3.18" ∈ mapping.mapping.tags ∧
    q.url.pairs = (a.endpoint "/images/create").pairs ++
      [("fromImage", "docker.io/library/alpine"), ("tag", "latest")] ∧
    q.url.pairs ≠ (a.endpoint "/images/create").pairs ++
      [("fromImage", (parse source).name), ("tag", "3.18")] := by
  intro digest mapping task s source a q
  have hs : s.violation = none := by decide +kernel
  have hname : (parse (Transfer.tagged source "3.18")).name = "docker.io/library/alpine" := by
    decide +kernel
  have htag : (parse (Transfer.tagged source "3.18")).tagOrLatest = "latest" := by
    decide +kernel
  have hpairs : q.url.pairs = (a.endpoint "/images/create").pairs ++
      [("fromImage", "docker.io/library/alpine"), ("tag", "latest")] := by
    rw [Access.pairs_pull, hname, htag]
  refine ⟨hs, List.mem_singleton_self _, List.mem_singleton_self _, List.mem_singleton_self _,
    hpairs, ?_⟩
  rw [hpairs, ne_eq, List.append_cancel_left_eq]
  simp

end RegistrySync
