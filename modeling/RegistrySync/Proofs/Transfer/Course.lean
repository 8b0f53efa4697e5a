import Mathlib.Data.List.Basic
import RegistrySync.Proofs.World.Extension
import RegistrySync.Proofs.World.Transcript
import RegistrySync.Transfer
import RegistrySync.World.Script

/-!
What a transfer asks of the world.

First it pulls, then it lists, then it tags, then it pushes. A failure to pull or to tag ends it
there, a failure to list only means that there is less to tag, and a failure to push is what the
transfer comes to.
-/

namespace RegistrySync.Transfer

open World Exchange

variable {σ : Type} (w : World σ) (t : Transfer)

/-- What is pulled and listed: the source with each listed tag behind a colon, or the source alone if
no tag is listed. -/
def references : List String :=
  if t.tags.isEmpty then [t.source] else t.tags.map fun tag => t.source ++ ":" ++ tag

/-- All tags are pulled exactly if none is listed. -/
def pullCall (reference : String) : Call :=
  .pull reference t.sourceAuth t.tags.isEmpty t.verbose

/-- Host and path of the target, with a slash between them if both are there. -/
def targetName : String :=
  let r := Reference.parse t.target
  if r.repo.isEmpty then r.path else if r.path.isEmpty then r.repo else r.repo ++ "/" ++ r.path

/-- One call for each tag of each image, with the tag behind the name of the target and a colon. -/
def tagCalls (images : List Image) : List Call :=
  images.flatMap fun i => i.tags.map fun tag => .tag i.id (t.targetName ++ ":" ++ tag)

def pushCall : Call := .push t.target true t.targetAuth t.verbose

/-- How a transfer goes, by its calls, and how it comes out. -/
structure IsCourse (pulls lists tags pushes : List Exchange) (r : Except Error Unit) : Prop where
  /-- All references are pulled in turn, up to the first failure. -/
  pulled : InTurn (t.references.map t.pullCall) pulls
  /-- If that fails, nothing else is done, and the failure is told of with its reference. -/
  pull_failed : ∀ x ∈ pulls, ∀ e, x.failure? = some e → lists = [] ∧ tags = [] ∧ pushes = [] ∧
    ∃ reference ∈ t.references, x.call = t.pullCall reference ∧
      r = .error (.pull reference e.message)
  /-- Else all of them are listed, failures or not. -/
  listed : (∀ x ∈ pulls, x.failure? = none) → lists.map (·.call) = t.references.map .list
  /-- What the lists give is tagged in turn, up to the first failure. -/
  tagged : (∀ x ∈ pulls, x.failure? = none) → InTurn (t.tagCalls (lists.flatMap images)) tags
  /-- If that fails, nothing is pushed. -/
  tag_failed : ∀ x ∈ tags, ∀ e, x.failure? = some e → pushes = [] ∧ r = .error (.tag e.message)
  /-- Else there is one push, and the transfer comes out as that does. -/
  pushed : (∀ x ∈ pulls, x.failure? = none) → (∀ x ∈ tags, x.failure? = none) →
    ∃ x, pushes = [x] ∧ x.call = t.pushCall ∧ r = x.verdict fun e => .push e.message

variable {w t}

namespace IsCourse

variable {pulls lists tags pushes : List Exchange} {r : Except Error Unit}

lemma exists_failure {xs : List Exchange} (h : ¬ ∀ x ∈ xs, x.failure? = none) :
    ∃ x ∈ xs, ∃ e, x.failure? = some e := by
  simpa [Option.ne_none_iff_exists'] using h

lemma failure?_of_ok (h : t.IsCourse pulls lists tags pushes (.ok ())) :
    (∀ x ∈ pulls, x.failure? = none) ∧ ∀ x ∈ tags, x.failure? = none := by
  refine ⟨fun x hx => ?_, fun x hx => ?_⟩
  all_goals rcases he : x.failure? with _ | e
  · rfl
  · obtain ⟨-, -, -, _, -, -, hr⟩ := h.pull_failed x hx e he
    cases hr
  · rfl
  · cases (h.tag_failed x hx e he).2

lemma isPrefix_tagCalls (h : t.IsCourse pulls lists tags pushes r) :
    tags.map (·.call) <+: t.tagCalls (lists.flatMap images) := by
  by_cases hp : ∀ x ∈ pulls, x.failure? = none
  · exact (h.tagged hp).isPrefix
  · obtain ⟨x, hx, e, he⟩ := exists_failure hp
    rw [(h.pull_failed x hx e he).2.1]
    exact List.nil_prefix

lemma call_of_mem_pushes (h : t.IsCourse pulls lists tags pushes r) {x : Exchange}
    (hx : x ∈ pushes) : x.call = t.pushCall := by
  by_cases hp : ∀ x ∈ pulls, x.failure? = none
  · by_cases ht : ∀ x ∈ tags, x.failure? = none
    · obtain ⟨y, rfl, hy, -⟩ := h.pushed hp ht
      rw [List.mem_singleton.1 hx, hy]
    · obtain ⟨y, hy, e, he⟩ := exists_failure ht
      rw [(h.tag_failed y hy e he).1] at hx
      cases hx
  · obtain ⟨y, hy, e, he⟩ := exists_failure hp
    rw [(h.pull_failed y hy e he).2.2.1] at hx
    cases hx

lemma call_of_mem_lists (h : t.IsCourse pulls lists tags pushes r) {x : Exchange}
    (hx : x ∈ lists) : ∃ reference, x.call = .list reference := by
  by_cases hp : ∀ x ∈ pulls, x.failure? = none
  · have hmem : x.call ∈ t.references.map Call.list := h.listed hp ▸ List.mem_map_of_mem hx
    obtain ⟨reference, -, hcall⟩ := List.mem_map.1 hmem
    exact ⟨reference, hcall.symm⟩
  · obtain ⟨y, hy, e, he⟩ := exists_failure hp
    rw [(h.pull_failed y hy e he).1] at hx
    cases hx

lemma call_cases (h : t.IsCourse pulls lists tags pushes r) {x : Exchange}
    (hx : x ∈ pulls ++ lists ++ tags ++ pushes) :
    (∃ reference, x.call = t.pullCall reference) ∨ (∃ reference, x.call = .list reference) ∨
      (∃ id reference, x.call = .tag id reference) ∨ x.call = t.pushCall := by
  simp only [List.mem_append] at hx
  rcases hx with ((hx | hx) | hx) | hx
  · have hmem : x.call ∈ t.references.map t.pullCall :=
      h.pulled.isPrefix.subset (List.mem_map_of_mem hx)
    obtain ⟨reference, -, hcall⟩ := List.mem_map.1 hmem
    exact .inl ⟨reference, hcall.symm⟩
  · exact .inr (.inl (h.call_of_mem_lists hx))
  · have hmem : x.call ∈ t.tagCalls (lists.flatMap images) :=
      h.isPrefix_tagCalls.subset (List.mem_map_of_mem hx)
    obtain ⟨i, -, hi⟩ := List.mem_flatMap.1 hmem
    obtain ⟨tag, -, hcall⟩ := List.mem_map.1 hi
    exact .inr (.inr (.inl ⟨_, _, hcall.symm⟩))
  · exact .inr (.inr (.inr (h.call_of_mem_pushes hx)))

end IsCourse

lemma requested_eq : t.requested = t.references := rfl

lemma adds_pull (reference : String) :
    Adds (t.pull w.transcribed reference).run fun xs r =>
      ∃ x : Exchange, x.call = t.pullCall reference ∧ xs = [x] ∧
        r = x.verdict fun e => .pull reference e.message :=
  (Adds.askFor _ _).verdict

lemma adds_rename (name : String × String) :
    Adds (rename w.transcribed name).run fun xs r =>
      ∃ x : Exchange, x.call = .tag name.1 name.2 ∧ xs = [x] ∧
        r = x.verdict fun e => .tag e.message :=
  (Adds.askFor _ _).verdict

lemma adds_push :
    Adds (t.push w.transcribed).run fun xs r =>
      ∃ x : Exchange, x.call = t.pushCall ∧ xs = [x] ∧ r = x.verdict fun e => .push e.message :=
  (Adds.askFor _ _).verdict

lemma adds_list (reference : String) :
    Adds (t.list w.transcribed reference) fun xs images =>
      ∃ x : Exchange, x.call = .list reference ∧ xs = [x] ∧ images = x.images := by
  refine (Adds.bind (Adds.ask (.list reference)) (Q := fun r xs images =>
    xs = [] ∧ images = (⟨.list reference, r⟩ : Exchange).images) fun r => ?_).mono ?_
  · rcases r with e | images
    · exact Adds.line (Adds.pure _)
    · exact Adds.pure _
  · rintro zs images ⟨xs, r, ys, rfl, ⟨rfl, rfl⟩, rfl⟩
    exact ⟨_, rfl, rfl, rfl⟩

lemma adds_listAll (rs : List String) :
    Adds (t.listAll w.transcribed rs) fun xs images =>
      xs.map (·.call) = rs.map .list ∧ images = xs.flatMap Exchange.images := by
  induction rs with
  | nil =>
    refine (Adds.pure _).mono ?_
    rintro xs images ⟨rfl, rfl⟩
    exact ⟨rfl, rfl⟩
  | cons r rs ih =>
    refine (Adds.bind (adds_list r) fun images => Adds.bind ih fun more => Adds.pure _).mono ?_
    rintro zs images
      ⟨_, first, ys, ⟨x, hc, rfl, rfl⟩, ⟨zs, more, _, ⟨hz, rfl⟩, ⟨rfl, rfl⟩, rfl⟩, rfl⟩
    simp [hc, hz]

lemma names_calls (images : List Image) :
    (t.names images).map (fun name => .tag name.1 name.2) = t.tagCalls images := by
  rw [names, tagCalls, List.map_flatMap]
  simp only [List.map_map]
  rfl

lemma adds_run :
    Adds (t.run w.transcribed).run fun xs r => ∃ pulls lists tags pushes,
      xs = pulls ++ lists ++ tags ++ pushes ∧ t.IsCourse pulls lists tags pushes r := by
  have hpulls := Adds.forM (adds_pull (w := w) (t := t)) t.references
  have htags images := Adds.forM (adds_rename (w := w)) (t.names images)
  have hlists := adds_listAll (w := w) (t := t) t.references
  refine (Adds.attempt_line (Adds.attempt_bind hpulls fun _ => Adds.attempt_line
    (Adds.attempt_lift hlists fun images => Adds.attempt_lines images (Adds.attempt_line
      (Adds.attempt_bind (htags images) fun _ => Adds.attempt_line adds_push))))).mono ?_
  rintro xs r (⟨e, hp, rfl⟩ | ⟨pulls, _, _, hp, ⟨lists, images, _, ⟨hl, rfl⟩, htag, rfl⟩, rfl⟩)
  · -- a pull fails
    exact ⟨xs, [], [], [], by simp, hp.inTurn,
      fun x hx e' he => ⟨rfl, rfl, rfl, hp.failed x hx e' he⟩, fun h => absurd h hp.not_forall,
      fun h => absurd h hp.not_forall, nofun, fun h => absurd h hp.not_forall⟩
  · have hpulled {x} (hx : x ∈ pulls) {e} (he : x.failure? = some e) := hp.failure?_ne x hx e he
    rcases htag with ⟨e, hg, rfl⟩ | ⟨tags, _, _, hg, ⟨x, hc, rfl, rfl⟩, rfl⟩
    all_goals
      have hturn := hg.inTurn
      rw [names_calls] at hturn
    · -- a tag fails
      rename_i tags
      refine ⟨pulls, lists, tags, [], by simp, hp.inTurn, fun x hx e' he => (hpulled hx he).elim,
        fun _ => hl, fun _ => hturn, fun x hx e' he => ?_, fun _ h => absurd h hg.not_forall⟩
      obtain ⟨_, -, -, hr⟩ := hg.failed x hx e' he
      exact ⟨rfl, hr⟩
    · -- nothing has failed before the push
      exact ⟨pulls, lists, tags, [x], by simp, hp.inTurn, fun y hy e he => (hpulled hy he).elim,
        fun _ => hl, fun _ => hturn, fun y hy e he => (hg.failure?_ne y hy e he).elim,
        fun _ _ => ⟨x, rfl, hc, rfl⟩⟩

/-! ### The same with and without a transcript -/

section

variable {τ : Type} {π : τ → σ} {v : World τ}

lemma list_tracks (hv : Extends π v w) (reference : String) :
    Tracks π (t.list v reference) (t.list w reference) := by
  refine Tracks.bind (Tracks.ask hv _) fun r => ?_
  rcases r with e | images
  · exact Tracks.bind (Tracks.say hv _ _) fun _ => Tracks.pure _
  · exact Tracks.pure _

lemma listAll_tracks (hv : Extends π v w) (rs : List String) :
    Tracks π (t.listAll v rs) (t.listAll w rs) := by
  induction rs with
  | nil => exact Tracks.pure _
  | cons r rs ih =>
    exact Tracks.bind (list_tracks hv r) fun _ => Tracks.bind ih fun _ => Tracks.pure _

lemma run_tracks (hv : Extends π v w) : Tracks π (t.run v).run (t.run w).run := by
  have hline l m : Tracks π (liftM (v.say l m) : Attempt τ Unit).run
      (liftM (w.say l m) : Attempt σ Unit).run := Tracks.lift (Tracks.say hv l m)
  refine Tracks.attempt_bind (hline _ _) fun _ => ?_
  refine Tracks.attempt_bind (Tracks.attempt_forM (fun _ => Tracks.askFor hv _ _) _) fun _ => ?_
  refine Tracks.attempt_bind (hline _ _) fun _ => ?_
  refine Tracks.attempt_bind (Tracks.lift (listAll_tracks hv _)) fun images => ?_
  refine Tracks.attempt_bind (Tracks.attempt_forM (fun _ => hline _ _) images) fun _ => ?_
  refine Tracks.attempt_bind (hline _ _) fun _ => ?_
  refine Tracks.attempt_bind (Tracks.attempt_forM (fun _ => Tracks.askFor hv _ _) _) fun _ => ?_
  exact Tracks.attempt_bind (hline _ _) fun _ => Tracks.askFor hv _ _

end

def transcript (t : Transfer) (w : World σ) (s : σ) : List Exchange :=
  (t.run w.transcribed (s, [])).2.2

/-- **A transfer stops at the first hard failure.** In every world, the transcript of a transfer is
its pulls, then its lists, then its tags, then a push or none, as `IsCourse` says, and keeping the
transcript changes neither what the transfer comes to nor what it leaves behind. -/
theorem run_stops_at_failure (w : World σ) (t : Transfer) (s : σ) :
    ∃ pulls lists tags pushes,
      (t.run w.transcribed (s, [])).2.2 = pulls ++ lists ++ tags ++ pushes ∧
      t.IsCourse pulls lists tags pushes (t.run w s).1 ∧
      t.run w s = ((t.run w.transcribed (s, [])).1, (t.run w.transcribed (s, [])).2.1) := by
  have htracks := run_tracks (t := t) (transcribed_extends w) (s, [])
  obtain ⟨xs, hx, pulls, lists, tags, pushes, rfl, hc⟩ := adds_run (w := w) (t := t) s []
  refine ⟨pulls, lists, tags, pushes, hx, ?_, htracks⟩
  have hr : (t.run w s).1 = (t.run w.transcribed (s, [])).1 := congrArg Prod.fst htracks
  rw [hr]
  exact hc

/-- A pull that fails, a list that fails, and a tag that fails when all tags are carried over. -/
theorem run_stops_at_failure_alpine :
    let t (tags : List String) : Transfer := ⟨"docker.io/library/alpine", "c3Jj",
      "localhost:5000/mirror/alpine:old", "dGd0", tags, false⟩
    let down : Error := .daemon "down"
    let older : Image := ⟨"sha256:18", "docker.io", "library/alpine", ["3.18"]⟩
    let newer : Image := ⟨"sha256:20", "docker.io", "library/alpine", ["3.20", "edge"]⟩
    let w (failing : Topic) : World Script.State := Script.world
      ⟨fun topic => if topic = failing then [⟨0, .error down⟩] else [],
        fun reference =>
          if failing = ⟨"list", reference⟩ then [⟨0, .error down⟩]
          else if reference = "docker.io/library/alpine:3.18" then [.success [older]]
          else [.success [newer]],
        fun _ => []⟩
    let course (tags : List String) (failing : Topic) (r : Except Error Unit) : Prop :=
      ∃ pulls lists tagged pushes,
        (t tags).transcript (w failing) Script.start = pulls ++ lists ++ tagged ++ pushes ∧
        (t tags).IsCourse pulls lists tagged pushes r
    let calls (tags : List String) (failing : Topic) : List Call :=
      ((t tags).transcript (w failing) Script.start).map (·.call)
    (calls ["3.18", "3.19", "3.20"] ⟨"pull", "docker.io/library/alpine:3.19"⟩ =
        [.pull "docker.io/library/alpine:3.18" "c3Jj" false false,
          .pull "docker.io/library/alpine:3.19" "c3Jj" false false] ∧
      course ["3.18", "3.19", "3.20"] ⟨"pull", "docker.io/library/alpine:3.19"⟩
        (.error (.pull "docker.io/library/alpine:3.19" "Daemon error: down"))) ∧
    (calls ["3.18", "3.19", "3.20"] ⟨"list", "docker.io/library/alpine:3.19"⟩ =
        [.pull "docker.io/library/alpine:3.18" "c3Jj" false false,
          .pull "docker.io/library/alpine:3.19" "c3Jj" false false,
          .pull "docker.io/library/alpine:3.20" "c3Jj" false false,
          .list "docker.io/library/alpine:3.18", .list "docker.io/library/alpine:3.19",
          .list "docker.io/library/alpine:3.20",
          .tag "sha256:18" "localhost:5000/mirror/alpine:3.18",
          .tag "sha256:20" "localhost:5000/mirror/alpine:3.20",
          .tag "sha256:20" "localhost:5000/mirror/alpine:edge",
          .push "localhost:5000/mirror/alpine:old" true "dGd0" false] ∧
      course ["3.18", "3.19", "3.20"] ⟨"list", "docker.io/library/alpine:3.19"⟩ (.ok ())) ∧
    calls [] ⟨"tag", "localhost:5000/mirror/alpine:3.20"⟩ =
        [.pull "docker.io/library/alpine" "c3Jj" true false, .list "docker.io/library/alpine",
          .tag "sha256:20" "localhost:5000/mirror/alpine:3.20"] ∧
      course [] ⟨"tag", "localhost:5000/mirror/alpine:3.20"⟩
        (.error (.tag "Daemon error: down")) := by
  intro t down older newer w course calls
  have hcourse (tags : List String) (failing : Topic) (r : Except Error Unit)
      (hr : ((t tags).run (w failing) Script.start).1 = r) : course tags failing r := by
    obtain ⟨pulls, lists, tagged, pushes, hcalls, hc, -⟩ :=
      run_stops_at_failure (w failing) (t tags) Script.start
    exact ⟨pulls, lists, tagged, pushes, hcalls, hr ▸ hc⟩
  exact ⟨⟨by decide +kernel, hcourse _ _ _ (by decide +kernel)⟩,
    ⟨by decide +kernel, hcourse _ _ _ (by decide +kernel)⟩,
    by decide +kernel, hcourse _ _ _ (by decide +kernel)⟩

end RegistrySync.Transfer
