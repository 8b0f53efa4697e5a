import Mathlib.Logic.Basic
import Mathlib.Tactic.Lemma
import RegistrySync.Proofs.World.Attempt
import RegistrySync.Proofs.World.Depot
import RegistrySync.Transfer

/-!
A transfer mirrors tags.

In the world of a depot a transfer succeeds exactly if all that it requests is in the registry, and
then the target repository holds there what the source repository held under each tag that is
carried over. What else changes, near and far, is said entry by entry.
-/

namespace RegistrySync.Transfer

open Reference World

variable {t : Transfer} {d : Depot} {e : Entry} {id tag : String}

/-- Repositories that are written out, and tags that can be written behind them. -/
structure IsProper (t : Transfer) : Prop where
  source : IsPlain t.source
  target : IsPlain t.target
  tags : ∀ tag ∈ t.tags, isTag tag

def Carries (t : Transfer) (tag : String) : Prop := t.tags = [] ∨ tag ∈ t.tags

instance (t : Transfer) (tag : String) : Decidable (t.Carries tag) :=
  inferInstanceAs (Decidable (_ ∨ _))

/-! ### What is requested -/

lemma requested_cases (t : Transfer) :
    t.isWhole = true ∧ t.tags = [] ∧ t.requested = [t.source] ∨
    t.isWhole = false ∧ t.tags ≠ [] ∧ t.requested = t.tags.map (tagged t.source) := by
  rw [requested, isWhole]
  rcases t.tags with _ | ⟨tag, tags⟩
  · exact .inl ⟨rfl, rfl, rfl⟩
  · exact .inr ⟨rfl, nofun, rfl⟩

lemma asked_requested (h : t.IsProper) (e : Entry) :
    (∃ reference ∈ t.requested, e.IsAskedBy reference t.isWhole) ↔
      e.name = normalizeName t.source ∧ t.Carries e.tag := by
  rcases t.requested_cases with ⟨hw, ht, hr⟩ | ⟨hw, ht, hr⟩
  · simp [hw, hr, Entry.isAskedBy_plain h.source, Carries, ht]
  · simp only [hw, hr, List.mem_map, exists_exists_and_eq_and, Carries, ht, false_or]
    constructor
    · rintro ⟨tag, hm, ha⟩
      obtain ⟨hname, rfl⟩ := (Entry.isAskedBy_tagged h.source (h.tags tag hm)).1 ha
      exact ⟨hname, hm⟩
    · rintro ⟨hname, hm⟩
      exact ⟨e.tag, hm, (Entry.isAskedBy_tagged h.source (h.tags _ hm)).2 ⟨hname, rfl⟩⟩

lemma available_iff (h : t.IsProper) :
    (∀ reference ∈ t.requested, d.far.asked reference t.isWhole ≠ []) ↔
      (∀ tag ∈ t.tags, (d.far.get? (.inRepository t.source tag)).isSome) ∧
      (t.tags = [] → ∃ tag, (d.far.get? (.inRepository t.source tag)).isSome) := by
  simp only [Shelf.asked_ne_nil]
  rcases t.requested_cases with ⟨hw, ht, hr⟩ | ⟨hw, ht, hr⟩
  · simp only [hw, hr, ht, List.mem_singleton, forall_eq, Entry.isAskedBy_plain h.source,
      List.not_mem_nil, false_implies, implies_true, true_and, true_implies]
    constructor
    · rintro ⟨e, hn, hf⟩
      rw [← Entry.inRepository_eq hn] at hf
      exact ⟨_, hf⟩
    · rintro ⟨tag, hf⟩
      exact ⟨_, Entry.inRepository_name, hf⟩
  · simp only [hw, hr, ht, List.forall_mem_map, false_implies, and_true]
    refine forall₂_congr fun tag hm => ?_
    simp only [tagged, Entry.isAskedBy_tagged h.source (h.tags tag hm)]
    constructor
    · rintro ⟨e, ⟨hn, rfl⟩, hf⟩
      rw [← Entry.inRepository_eq hn] at hf
      exact hf
    · intro hf
      exact ⟨_, ⟨Entry.inRepository_name, Entry.inRepository_tag⟩, hf⟩

lemma carry_requested (h : t.IsProper) (hd : d.IsProper) :
    Image.Carry (t.requested.flatMap d.list) id tag ↔
      d.near.get? (.inRepository t.source tag) = some id ∧ t.Carries tag := by
  rw [Image.carry_flatMap]
  rcases t.requested_cases with ⟨-, ht, hr⟩ | ⟨-, ht, hr⟩
  · -- without tags the source itself is listed, and all that stands there is carried
    simp [hr, Depot.carry_list hd, h.source.tag_eq_none, h.source.2, Entry.inRepository, Carries,
      ht]
  · have hparse {s : String} (hm : s ∈ t.tags) : parse (tagged t.source s) =
        { parse t.source with tag := some s } := h.source.parse_tagged (h.tags s hm)
    have hname (s : String) : Reference.name { parse t.source with tag := some s } = t.source :=
      h.source.2
    simp only [hr, List.mem_map, exists_exists_and_eq_and, Depot.carry_list hd, Carries, ht,
      false_or]
    constructor
    · rintro ⟨s, hm, hs⟩
      rw [hparse hm, hname] at hs
      obtain ⟨hnear, hall⟩ := hs
      obtain rfl : s = tag := by simpa using hall
      exact ⟨hnear, hm⟩
    · rintro ⟨hnear, hm⟩
      refine ⟨tag, hm, ?_⟩
      rw [hparse hm, hname]
      exact ⟨hnear, by simp⟩

lemma ofReference_target (h : t.IsProper) (ht : isTag tag) :
    Entry.ofReference (tagged t.target tag) = .inRepository t.target tag :=
  Entry.ofReference_tagged h.target ht

lemma mem_names (h : t.IsProper) {images : List Image} {name : String × String} :
    name ∈ t.names images ↔
      ∃ tag, Image.Carry images name.1 tag ∧ name.2 = tagged t.target tag := by
  have hsplit : Reference.join (split t.target).1 (split t.target).2 = t.target := h.target.2
  simp only [names, List.mem_flatMap, List.mem_map, Image.reference, Image.retarget, hsplit,
    Image.Carry]
  constructor
  · rintro ⟨i, hi, tag, htag, rfl⟩
    exact ⟨tag, ⟨i, hi, rfl, htag⟩, rfl⟩
  · rintro ⟨tag, ⟨i, hi, hid, htag⟩, hname⟩
    exact ⟨i, hi, tag, htag, Prod.ext hid hname.symm⟩

/-! ### The steps in a depot -/

/-- How pulling several references comes out, and what it leaves. -/
structure IsPulled (t : Transfer) (references : List String) (before : Depot)
    (r : Except Error Unit) (after : Depot) : Prop where
  far : after.far = before.far
  ok_iff : r = .ok () ↔ ∀ reference ∈ references, before.far.asked reference t.isWhole ≠ []
  near : r = .ok () → ∀ e : Entry, after.near.get? e =
    if ∃ reference ∈ references, e.IsAskedBy reference t.isWhole then
      (before.far.get? e).or (before.near.get? e) else before.near.get? e

lemma pulls_cons (reference : String) (references : List String) (d : Depot) :
    ((reference :: references).forM (t.pull Depot.world)).run d =
      match d.pull reference t.isWhole with
      | (.error e, after) => (.error (.pull reference e.message), after)
      | (.ok _, after) => (references.forM (t.pull Depot.world)).run after := by
  have hpull : (t.pull Depot.world reference).run d =
      ((d.pull reference t.isWhole).1.mapError fun e => .pull reference e.message,
        (d.pull reference t.isWhole).2) := rfl
  rw [List.forM, attempt_run_bind, hpull]
  rcases d.pull reference t.isWhole with ⟨_ | _, after⟩ <;> rfl

lemma isPulled (references : List String) (d : Depot) :
    t.IsPulled references d ((references.forM (t.pull Depot.world)).run d).1
      ((references.forM (t.pull Depot.world)).run d).2 := by
  induction references generalizing d with
  | nil => exact ⟨rfl, ⟨fun _ => nofun, fun _ => rfl⟩, fun _ e => (if_neg nofun).symm⟩
  | cons reference references ih =>
    rw [pulls_cons]
    rcases d.pull_cases reference t.isWhole with ⟨hnil, hpull⟩ | ⟨hne, near, hpull, hnear⟩
    all_goals
      rw [hpull]
      dsimp only
    · exact ⟨rfl, ⟨nofun, fun h => absurd hnil (h _ List.mem_cons_self)⟩, nofun⟩
    · obtain ⟨hfar, hok, hn⟩ := ih { d with near }
      refine ⟨hfar, ?_, fun h e => ?_⟩
      · rw [hok, List.forall_mem_cons, and_iff_right hne]
      · have hcons : (∃ r ∈ reference :: references, e.IsAskedBy r t.isWhole) ↔
            e.IsAskedBy reference t.isWhole ∨ ∃ r ∈ references, e.IsAskedBy r t.isWhole := by
          simp
        rw [hn h e]
        simp only [hnear, hcons]
        by_cases hr : e.IsAskedBy reference t.isWhole
        · simp only [hr, true_or, if_true, ← Option.or_assoc, Option.or_self, ite_self]
        · simp only [hr, false_or, if_false]

lemma listAll_run (references : List String) (d : Depot) :
    t.listAll Depot.world references d = (references.flatMap d.list, d) := by
  induction references with
  | nil => rfl
  | cons reference references ih =>
    have hstep : t.listAll Depot.world (reference :: references) d =
        (d.list reference ++ (t.listAll Depot.world references d).1,
          (t.listAll Depot.world references d).2) := rfl
    rw [hstep, ih]
    rfl

lemma renames_run (names : List (String × String)) (d : Depot) :
    (names.forM (rename Depot.world)).run d = (.ok (), d.tagAll names) := by
  induction names generalizing d with
  | nil => rfl
  | cons name names ih => exact ih (d.tag name.1 name.2)

section

variable {α β : Type} {g : α → Attempt Depot β} {f : Attempt Depot β}

lemma run_line (m : String) (d : Depot) :
    ((liftM (Depot.world.info m) : Attempt Depot Unit) >>= fun _ => f).run d = f.run d := rfl

lemma run_lines (images : List Image) (d : Depot) :
    ((images.forM fun i => (liftM (Depot.world.info (" - " ++ i.display)) : Attempt Depot Unit)) >>=
      fun _ => f).run d = f.run d := by
  induction images with
  | nil => rfl
  | cons i images ih => exact ih

lemma run_listAll {g : List Image → Attempt Depot β} (references : List String) (d : Depot) :
    ((liftM (t.listAll Depot.world references) : Attempt Depot (List Image)) >>= g).run d =
      (g (references.flatMap d.list)).run d := by
  have hstep :
      ((liftM (t.listAll Depot.world references) : Attempt Depot (List Image)) >>= g).run d =
        (g (t.listAll Depot.world references d).1).run (t.listAll Depot.world references d).2 := rfl
  rw [hstep, listAll_run]

end

lemma run_depot (t : Transfer) (d : Depot) : (t.run Depot.world).run d =
    match (t.requested.forM (t.pull Depot.world)).run d with
    | (.error e, after) => (.error e, after)
    | (.ok _, after) =>
      (.ok (), (after.tagAll (t.names (t.requested.flatMap after.list))).push t.target true) := by
  rw [run, run_line, attempt_run_bind]
  rcases (t.requested.forM (t.pull Depot.world)).run d with ⟨_ | _, after⟩
  · rfl
  · dsimp only
    rw [run_line, run_listAll, run_lines, run_line, attempt_run_bind, renames_run]
    rfl

/-! ### What a transfer leaves -/

lemma IsPulled.near_eq {r : Except Error Unit} {after : Depot} (h : t.IsProper)
    (hp : t.IsPulled t.requested d r after) (hr : r = .ok ()) (e : Entry) :
    after.near.get? e = if e.name = normalizeName t.source ∧ t.Carries e.tag then
      (d.far.get? e).or (d.near.get? e) else d.near.get? e := by
  rw [hp.near hr e]
  exact if_congr (asked_requested h e) rfl rfl

lemma IsPulled.isProper {r : Except Error Unit} {after : Depot} {references : List String}
    (hp : t.IsPulled references d r after) (hr : r = .ok ()) (hd : d.IsProper) :
    after.IsProper := by
  rw [Depot.isProper_iff] at hd ⊢
  rintro e id (hn | hf)
  · rw [hp.near hr e] at hn
    split at hn
    · rcases Option.or_eq_some_iff.1 hn with hf | ⟨-, hn⟩
      · exact hd e id (.inr hf)
      · exact hd e id (.inl hn)
    · exact hd e id (.inl hn)
  · rw [hp.far] at hf
    exact hd e id (.inr hf)

lemma near_names (h : t.IsProper) (hd : d.IsProper) (e : Entry) :
    (d.tagAll (t.names (t.requested.flatMap d.list))).near.get? e =
      if e.name = normalizeName t.target ∧ t.Carries e.tag then
        (d.near.get? (.inRepository t.source e.tag)).or (d.near.get? e) else d.near.get? e := by
  rcases d.near_tagAll (t.names (t.requested.flatMap d.list)) e with
    ⟨name, hn, rfl, hid⟩ | ⟨hno, hsame⟩
  · obtain ⟨tag, hcarry, hname⟩ := (mem_names h).1 hn
    obtain ⟨hnear, hc⟩ := (carry_requested h hd).1 hcarry
    have hentry : Entry.ofReference name.2 = .inRepository t.target tag := by
      rw [hname, ofReference_target h (hd.isTag hnear)]
    rw [hentry] at hid ⊢
    simp only [hid, Entry.inRepository_name, Entry.inRepository_tag, hc, hnear, true_and, if_true,
      Option.some_or]
  · rw [hsame]
    split
    · rename_i he
      rcases hs : d.near.get? (.inRepository t.source e.tag) with _ | id
      · rfl
      · have hcarry := (carry_requested h hd).2 ⟨hs, he.2⟩
        have hn := hno (id, tagged t.target e.tag) ((mem_names h).2 ⟨_, hcarry, rfl⟩)
        have hentry := ofReference_target h (hd.isTag hs)
        exact absurd (hentry.trans (Entry.inRepository_eq he.1)) hn
    · rfl

lemma IsPulled.near_names_eq {r : Except Error Unit} {after : Depot} (h : t.IsProper)
    (hd : d.IsProper) (hp : t.IsPulled t.requested d r after) (hr : r = .ok ()) (e : Entry) :
    (after.tagAll (t.names (t.requested.flatMap after.list))).near.get? e =
      if t.Carries e.tag then
        if e.name = normalizeName t.target then
          ((d.far.get? (.inRepository t.source e.tag)).or
            (d.near.get? (.inRepository t.source e.tag))).or (d.near.get? e)
        else if e.name = normalizeName t.source then (d.far.get? e).or (d.near.get? e)
        else d.near.get? e
      else d.near.get? e := by
  rw [near_names h (hp.isProper hr hd), hp.near_eq h hr, hp.near_eq h hr]
  by_cases hc : t.Carries e.tag
  · simp only [Entry.inRepository_name, Entry.inRepository_tag, hc, and_true, if_true]
    by_cases ht : e.name = normalizeName t.target
    · rw [if_pos ht, if_pos ht]
      by_cases hs : e.name = normalizeName t.source
      · rw [if_pos hs, Entry.inRepository_eq hs, Option.or_self, Option.or_assoc, Option.or_self]
      · rw [if_neg hs]
    · rw [if_neg ht, if_neg ht]
  · simp only [hc, and_false, if_false]

lemma far_push_target (h : t.IsProper) (e : Entry) : (d.push t.target true).far.get? e =
    if e.name = normalizeName t.target then (d.near.get? e).or (d.far.get? e)
    else d.far.get? e := by
  rw [Depot.far_push]
  exact if_congr (Entry.isAskedBy_plain h.target) rfl rfl

/-- What a transfer leaves that succeeded. -/
structure IsMirrored (t : Transfer) (before after : Depot) : Prop where
  /-- What is listed was there. -/
  present : ∀ tag ∈ t.tags, (before.far.get? (.inRepository t.source tag)).isSome
  /-- What is carried over stands in the far target repository as it stood in the far source
  repository. -/
  copied : ∀ tag id, t.Carries tag → before.far.get? (.inRepository t.source tag) = some id →
    after.far.get? (.inRepository t.target tag) = some id
  /-- To the far target repository goes all that the near one has, and nothing is taken away. -/
  far_target : ∀ tag, after.far.get? (.inRepository t.target tag) =
    (after.near.get? (.inRepository t.target tag)).or (before.far.get? (.inRepository t.target tag))
  far_rest : ∀ e : Entry, e.name ≠ normalizeName t.target → after.far.get? e = before.far.get? e
  /-- The near target repository has what the source repository has far, or else near, or else what
  it had. -/
  near_target : ∀ tag, t.Carries tag → after.near.get? (.inRepository t.target tag) =
    ((before.far.get? (.inRepository t.source tag)).or
      (before.near.get? (.inRepository t.source tag))).or
      (before.near.get? (.inRepository t.target tag))
  /-- The near source repository has what the far one has, or else what it had. -/
  near_source : normalizeName t.source ≠ normalizeName t.target → ∀ tag, t.Carries tag →
    after.near.get? (.inRepository t.source tag) =
      (before.far.get? (.inRepository t.source tag)).or
        (before.near.get? (.inRepository t.source tag))
  near_rest : ∀ e : Entry,
    (t.Carries e.tag → e.name ≠ normalizeName t.source ∧ e.name ≠ normalizeName t.target) →
    after.near.get? e = before.near.get? e

lemma IsPulled.isMirrored {r : Except Error Unit} {after : Depot} (h : t.IsProper)
    (hd : d.IsProper) (hp : t.IsPulled t.requested d r after) (hr : r = .ok ()) :
    t.IsMirrored d
      ((after.tagAll (t.names (t.requested.flatMap after.list))).push t.target true) := by
  have hnear := hp.near_names_eq h hd hr
  have hfar e := far_push_target (d := after.tagAll (t.names (t.requested.flatMap after.list))) h e
  simp only [Depot.far_tagAll, hp.far] at hfar
  have htarget {tag : String} (hc : t.Carries tag) := hnear (.inRepository t.target tag)
  simp only [Entry.inRepository_name, Entry.inRepository_tag, if_true] at htarget
  refine ⟨((available_iff h).1 (hp.ok_iff.1 hr)).1, fun tag id hc hid => ?_, fun tag => ?_,
    fun e he => ?_, fun tag hc => ?_, fun hne tag hc => ?_, fun e he => ?_⟩
  · rw [hfar, if_pos Entry.inRepository_name, htarget hc, if_pos hc, hid]
    rfl
  · rw [hfar, if_pos Entry.inRepository_name, Depot.near_push]
  · rw [hfar, if_neg he]
  · rw [Depot.near_push, htarget hc, if_pos hc]
  · rw [Depot.near_push, hnear]
    simp only [Entry.inRepository_name, Entry.inRepository_tag, hc, hne, if_true, if_false]
  · rw [Depot.near_push, hnear]
    by_cases hc : t.Carries e.tag
    · rw [if_pos hc, if_neg (he hc).2, if_neg (he hc).1]
    · rw [if_neg hc]

/-- **A transfer mirrors tags.** In a depot it succeeds exactly if each listed tag, or some tag if
none is listed, is in the far source repository, and then every tag that it carries over stands in
the far target repository for the image that the far source repository has under it. -/
theorem run_mirrors (h : t.IsProper) (hd : d.IsProper) :
    ((t.run Depot.world d).1 = .ok () ↔
      (∀ tag ∈ t.tags, (d.far.get? (.inRepository t.source tag)).isSome) ∧
      (t.tags = [] → ∃ tag, (d.far.get? (.inRepository t.source tag)).isSome)) ∧
    ((t.run Depot.world d).1 = .ok () → t.IsMirrored d (t.run Depot.world d).2) := by
  have hp := isPulled (t := t) t.requested d
  have hrun : t.run Depot.world d = _ := t.run_depot d
  rw [← available_iff h, ← hp.ok_iff, hrun]
  rcases hr : (t.requested.forM (t.pull Depot.world)).run d with ⟨_ | _, after⟩
  all_goals rw [hr] at hp
  · exact ⟨⟨nofun, nofun⟩, nofun⟩
  · exact ⟨⟨fun _ => rfl, fun _ => rfl⟩, fun _ => hp.isMirrored h hd rfl⟩

/-- A tag listed twice, a stale one near, one image under two tags, and a tag that is near only. -/
theorem run_mirrors_alpine :
    let t : Transfer :=
      ⟨"docker.io/alpine", "", "quay.io/mirror", "", ["3.20", "3.19", "3.20"], false⟩
    let d : Depot :=
      { near := [(⟨"docker.io/library/alpine", "3.20"⟩, "old"), (⟨"quay.io/mirror", "dev"⟩, "own")]
        far := [(⟨"docker.io/library/alpine", "3.20"⟩, "new"),
          (⟨"docker.io/library/alpine", "3.19"⟩, "new"), (⟨"quay.io/mirror", "3.20"⟩, "old")] }
    t.IsProper ∧ d.IsProper ∧ (t.run Depot.world d).1 = .ok () ∧
      t.IsMirrored d (t.run Depot.world d).2 ∧
      (t.run Depot.world d).2.far.get? (.inRepository "quay.io/mirror" "3.20") = some "new" := by
  intro t d
  have ht : t.IsProper := ⟨by decide, by decide, by decide⟩
  have hd : d.IsProper := by decide
  have hok : (t.run Depot.world d).1 = .ok () :=
    (run_mirrors ht hd).1.2 ⟨by decide, nofun⟩
  have hm := (run_mirrors ht hd).2 hok
  exact ⟨ht, hd, hok, hm, hm.copied "3.20" "new" (by decide) (by decide)⟩

end RegistrySync.Transfer
