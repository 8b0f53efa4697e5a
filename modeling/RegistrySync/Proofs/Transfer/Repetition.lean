import RegistrySync.Proofs.Image.Order
import RegistrySync.Proofs.Transfer.Course
import RegistrySync.Proofs.Transfer.Mirror
import RegistrySync.Proofs.World.Passage

/-!
A transfer can be repeated.

A transfer that succeeded succeeds again if the source repository is not changed in between. It
makes the same calls, since giving tags in the target repository does not change what stands near in
the source repository, and it leaves near what it found there, since what it pulls and tags is
there.
-/

namespace RegistrySync

open Reference World

/-! ### Calls in a depot -/

namespace Depot

variable {d d' : Depot} {x : Exchange} {xs : List Exchange} {references : List String}

lemma leads_nil (h : Leads world d [] d') : d' = d := by
  generalize hxs : ([] : List Exchange) = xs at h
  induction h with
  | refl => rfl
  | line _ _ ih => exact ih hxs
  | call => cases hxs

lemma leads_cons {c : Call} (hc : x.call = c) (h : Leads world d (x :: xs) d') :
    x = ⟨c, (world.answer c d).1⟩ ∧ Leads world (world.answer c d).2 xs d' := by
  subst hc
  generalize hxs : x :: xs = ys at h
  induction h with
  | refl => cases hxs
  | line _ _ ih => exact ih hxs
  | call c h =>
    obtain ⟨rfl, rfl⟩ := List.cons.inj hxs
    exact ⟨rfl, h⟩

lemma leads_lists (h : Leads world d xs d') (hcalls : xs.map (·.call) = references.map .list) :
    d' = d ∧ xs.flatMap Exchange.images = references.flatMap d.list := by
  induction references generalizing xs with
  | nil =>
    obtain rfl := List.map_eq_nil_iff.1 hcalls
    exact ⟨leads_nil h, rfl⟩
  | cons reference references ih =>
    rcases xs with _ | ⟨x, xs⟩
    · cases hcalls
    · obtain ⟨hcall, hrest⟩ := List.cons.inj hcalls
      obtain ⟨hx, h⟩ := leads_cons hcall h
      obtain ⟨hd, himages⟩ := ih h hrest
      refine ⟨hd, ?_⟩
      rw [List.flatMap_cons, List.flatMap_cons, himages, hx]
      rfl

lemma list_congr {e : Depot} {reference : String} (hd : d.IsProper) (he : e.IsProper)
    (h : ∀ tag, d.near.get? ⟨normalizeName (parse reference).name, tag⟩ =
      e.near.get? ⟨normalizeName (parse reference).name, tag⟩) :
    d.list reference = e.list reference := by
  refine Image.matching_eq_of_carry d.near.nodup_inventory e.near.nodup_inventory fun id tag => ?_
  have hcarry {f : Depot} (hf : f.IsProper) :
      Image.Carry (Image.matching (parse reference) f.near.inventory) id tag ↔
        f.near.get? ⟨normalizeName (parse reference).name, tag⟩ = some id ∧
          (parse reference).tag.all (· == tag) := carry_list hf
  rw [hcarry hd, hcarry he, h]

end Depot

namespace Transfer

variable {t : Transfer} {d again : Depot} {e : Entry} {tag : String}

lemma leads_transcript {σ : Type} (w : World σ) (t : Transfer) (s : σ) :
    Leads w s (t.transcript w s) (t.run w s).2 := by
  have hkeeps : Keeps (HasLed w s []) (t.run w.transcribed).run :=
    keeps_of_tracks (run_tracks (restricted_extends (maintains_hasLed w s [])))
  obtain ⟨xs, hxs, hled⟩ := hkeeps (s, []) ⟨[], rfl, .refl⟩
  have hplain : t.run w s = _ := run_tracks (transcribed_extends w) (s, [])
  have htranscript : t.transcript w s = xs := hxs
  rw [hplain, htranscript]
  exact hled

lemma leads_pulls {references : List String} {xs : List Exchange} {after : Depot}
    (h : Leads Depot.world d xs after) (hcalls : xs.map (·.call) = references.map t.pullCall)
    (hok : ∀ x ∈ xs, x.failure? = none) :
    (references.forM (t.pull Depot.world)).run d = (.ok (), after) := by
  induction references generalizing d xs with
  | nil =>
    obtain rfl := List.map_eq_nil_iff.1 hcalls
    obtain rfl := Depot.leads_nil h
    rfl
  | cons reference references ih =>
    rcases xs with _ | ⟨x, xs⟩
    · cases hcalls
    · obtain ⟨hcall, hrest⟩ := List.cons.inj hcalls
      obtain ⟨hx, h⟩ := Depot.leads_cons hcall h
      have hfirst : (⟨t.pullCall reference, (d.pull reference t.isWhole).1⟩ : Exchange).failure? =
          none := hx ▸ hok x List.mem_cons_self
      have hrun : (references.forM (t.pull Depot.world)).run (d.pull reference t.isWhole).2 =
          (.ok (), after) := ih h hrest fun y hy => hok y (List.mem_cons_of_mem _ hy)
      rw [pulls_cons]
      rcases hpull : d.pull reference t.isWhole with ⟨e | _, next⟩
      all_goals rw [hpull] at hfirst hrun
      · cases hfirst
      · exact hrun

lemma calls_depot (hok : (t.run Depot.world d).1 = .ok ()) :
    ∃ after, (t.requested.forM (t.pull Depot.world)).run d = (.ok (), after) ∧
      (t.transcript Depot.world d).map (·.call) = t.requested.map t.pullCall ++
        t.requested.map .list ++ t.tagCalls (t.requested.flatMap after.list) ++ [t.pushCall] := by
  have hplain : t.run Depot.world d = _ := run_tracks (transcribed_extends Depot.world) (d, [])
  obtain ⟨_, hxs, pulls, lists, tags, pushes, rfl, hc⟩ := adds_run (w := Depot.world) (t := t) d []
  rw [← congrArg Prod.fst hplain, hok] at hc
  obtain ⟨hpulls, htags⟩ := hc.failure?_of_ok
  have hled := leads_transcript Depot.world t d
  have htranscript : t.transcript Depot.world d = pulls ++ lists ++ tags ++ pushes := hxs
  rw [htranscript, List.append_assoc, List.append_assoc] at hled
  obtain ⟨after, hpulled, hled⟩ := hled.split
  obtain ⟨listed, hlisted, -⟩ := hled.split
  obtain ⟨-, himages⟩ := Depot.leads_lists hlisted (hc.listed hpulls)
  obtain ⟨x, rfl, hx, -⟩ := hc.pushed hpulls htags
  refine ⟨after, leads_pulls hpulled (hc.pulled.calls_eq hpulls) hpulls, ?_⟩
  rw [htranscript, t.requested_eq, ← himages]
  simp [hc.pulled.calls_eq hpulls, hc.listed hpulls, (hc.tagged hpulls).calls_eq htags, hx]

/-! ### What the second time finds -/

/-- The depot with the target names given to what it lists. -/
def named (t : Transfer) (d : Depot) : Depot := d.tagAll (t.names (t.requested.flatMap d.list))

lemma name_requested (h : t.IsProper) {reference : String} (hr : reference ∈ t.requested) :
    (parse reference).name = t.source := by
  rcases t.requested_cases with ⟨-, -, hrequested⟩ | ⟨-, -, hrequested⟩
  all_goals rw [hrequested] at hr
  · rw [List.mem_singleton.1 hr]
    exact h.source.2
  · obtain ⟨tag, htag, rfl⟩ := List.mem_map.1 hr
    rw [tagged, h.source.parse_tagged (h.tags tag htag)]
    exact h.source.2

lemma listed_congr (h : t.IsProper) {d' : Depot} (hd : d.IsProper) (hd' : d'.IsProper)
    (hsame : ∀ e : Entry, e.name = normalizeName t.source → d.near.get? e = d'.near.get? e) :
    t.requested.flatMap d.list = t.requested.flatMap d'.list := by
  refine List.flatMap_congr fun reference hr => Depot.list_congr hd hd' fun tag => hsame _ ?_
  rw [name_requested h hr]

lemma near_named_source (h : t.IsProper) (hd : d.IsProper)
    (he : e.name = normalizeName t.source) : (t.named d).near.get? e = d.near.get? e := by
  rw [named, near_names h hd, Entry.inRepository_eq he, Option.or_self, ite_self]

lemma near_named_named (h : t.IsProper) (hd : d.IsProper) {d' : Depot} (hd' : d'.IsProper)
    (hsame : ∀ e, d'.near.get? e = (t.named d).near.get? e) (e : Entry) :
    (t.named d').near.get? e = (t.named d).near.get? e := by
  have hsource : d'.near.get? (.inRepository t.source e.tag) =
      d.near.get? (.inRepository t.source e.tag) := by
    rw [hsame, near_named_source h hd Entry.inRepository_name]
  rw [named, near_names h hd', hsource, hsame, named, near_names h hd]
  split
  · rw [← Option.or_assoc, Option.or_self]
  · rfl

/-- The source repository holds under each tag that is carried over what it held before or after the
first time. -/
def IsUnchanged (t : Transfer) (before after again : Depot) : Prop :=
  ∀ tag, t.Carries tag → again.far.get? (.inRepository t.source tag) ∈
    [before.far.get? (.inRepository t.source tag), after.far.get? (.inRepository t.source tag)]

section

variable {pulled : Depot} {r : Except Error Unit}

lemma IsUnchanged.near (h : t.IsProper) (hd : d.IsProper)
    (hp : t.IsPulled t.requested d r pulled) (hr : r = .ok ())
    (hsource : t.IsUnchanged d ((t.named pulled).push t.target true) again)
    (hc : t.Carries tag) {id : String}
    (hid : again.far.get? (.inRepository t.source tag) = some id) :
    (t.named pulled).near.get? (.inRepository t.source tag) = some id := by
  have hnear : (t.named pulled).near.get? (.inRepository t.source tag) =
      (d.far.get? (.inRepository t.source tag)).or
        (d.near.get? (.inRepository t.source tag)) := by
    rw [near_named_source h (hp.isProper hr hd) Entry.inRepository_name, hp.near_eq h hr,
      if_pos ⟨Entry.inRepository_name, hc⟩]
  have hbefore (hfar : d.far.get? (.inRepository t.source tag) = some id) :
      (t.named pulled).near.get? (.inRepository t.source tag) = some id := by
    rw [hnear, hfar, Option.some_or]
  have hmem := hsource tag hc
  rw [hid, List.mem_cons, List.mem_singleton] at hmem
  rcases hmem with hfar | hfar
  · exact hbefore hfar.symm
  · rw [far_push_target h, named, Depot.far_tagAll, hp.far, ← named] at hfar
    split at hfar
    · rcases Option.or_eq_some_iff.1 hfar.symm with hnear | ⟨-, hfar⟩
      · exact hnear
      · exact hbefore hfar
    · exact hbefore hfar.symm

lemma IsUnchanged.available (h : t.IsProper)
    (hsource : t.IsUnchanged d ((t.named pulled).push t.target true) again)
    (hp : t.IsPulled t.requested d r pulled) (hr : r = .ok ()) :
    ∀ reference ∈ t.requested, again.far.asked reference t.isWhole ≠ [] := by
  have hsome (tag : String) (hc : t.Carries tag)
      (hfar : (d.far.get? (.inRepository t.source tag)).isSome) :
      (again.far.get? (.inRepository t.source tag)).isSome := by
    have hmem := hsource tag hc
    rw [List.mem_cons, List.mem_singleton] at hmem
    rcases hmem with hsame | hsame
    · rwa [hsame]
    · rw [hsame, far_push_target h, named, Depot.far_tagAll, hp.far]
      split
      · rw [Option.isSome_or, hfar, Bool.or_true]
      · exact hfar
  obtain ⟨htags, hany⟩ := (available_iff h).1 (hp.ok_iff.1 hr)
  refine (available_iff h).2
    ⟨fun tag htag => hsome tag (.inr htag) (htags tag htag), fun hnil => ?_⟩
  obtain ⟨tag, htag⟩ := hany hnil
  exact ⟨tag, hsome tag (.inl hnil) htag⟩

end

/-! ### The second time -/

/-- What a transfer does that was done before; `after` is what the first time has left. -/
structure IsRepeated (t : Transfer) (before after again : Depot) : Prop where
  ok : (t.run Depot.world again).1 = .ok ()
  calls : (t.transcript Depot.world again).map (·.call) =
    (t.transcript Depot.world before).map (·.call)
  near : ∀ e, (t.run Depot.world again).2.near.get? e = after.near.get? e
  /-- All that stands near in the target repository is there as it was uploaded the first time. -/
  uploaded : ∀ tag id, after.near.get? (.inRepository t.target tag) = some id →
    after.far.get? (.inRepository t.target tag) = some id ∧
      (t.run Depot.world again).2.far.get? (.inRepository t.target tag) = some id
  /-- Nothing else changes in the registry. -/
  rest : ∀ e : Entry, (e.name = normalizeName t.target → after.near.get? e = none) →
    (t.run Depot.world again).2.far.get? e = again.far.get? e

lemma run_ok_iff : (t.run Depot.world d).1 = .ok () ↔
    ∀ reference ∈ t.requested, d.far.asked reference t.isWhole ≠ [] := by
  have hrun : t.run Depot.world d = _ := t.run_depot d
  rw [hrun, ← (isPulled t.requested d).ok_iff]
  rcases (t.requested.forM (t.pull Depot.world)).run d with ⟨_ | _, pulled⟩
  · exact ⟨nofun, nofun⟩
  · exact ⟨fun _ => rfl, fun _ => rfl⟩

lemma run_ok (hok : (t.run Depot.world d).1 = .ok ()) : ∃ pulled,
    t.IsPulled t.requested d (.ok ()) pulled ∧
      (t.requested.forM (t.pull Depot.world)).run d = (.ok (), pulled) ∧
      t.run Depot.world d = (.ok (), (t.named pulled).push t.target true) := by
  have hp := isPulled (t := t) t.requested d
  have hrun : t.run Depot.world d = _ := t.run_depot d
  rw [hrun] at hok ⊢
  rcases hr : (t.requested.forM (t.pull Depot.world)).run d with ⟨_ | _, pulled⟩
  all_goals rw [hr] at hp hok
  · cases hok
  · exact ⟨pulled, hp, rfl, rfl⟩

lemma IsUnchanged.near_pulled {pulled pulled' : Depot} (h : t.IsProper) (hd : d.IsProper)
    (hp : t.IsPulled t.requested d (.ok ()) pulled)
    (hp' : t.IsPulled t.requested again (.ok ()) pulled')
    (hnear : ∀ e, again.near.get? e = (t.named pulled).near.get? e)
    (hsource : t.IsUnchanged d ((t.named pulled).push t.target true) again) (e : Entry) :
    pulled'.near.get? e = (t.named pulled).near.get? e := by
  rw [hp'.near_eq h rfl, hnear]
  split
  · rename_i he
    rcases hfar : again.far.get? e with _ | id
    · rfl
    · rw [← Entry.inRepository_eq he.1] at hfar ⊢
      rw [hsource.near h hd hp rfl he.2 hfar, Option.some_or]
  · rfl

/-- **A transfer can be repeated.** In a depot, let a transfer have succeeded, and let it be done
again in a depot with the same near shelf and with a source repository that was not changed. Then it
succeeds again, it makes the same calls, and near and in the target repository it leaves all as the
first time has left it. -/
theorem run_again (h : t.IsProper) (hd : d.IsProper) (hok : (t.run Depot.world d).1 = .ok ())
    (hagain : again.IsProper)
    (hnear : ∀ e, again.near.get? e = (t.run Depot.world d).2.near.get? e)
    (hsource : t.IsUnchanged d (t.run Depot.world d).2 again) :
    t.IsRepeated d (t.run Depot.world d).2 again := by
  obtain ⟨after, hafter, hcalls⟩ := calls_depot hok
  obtain ⟨pulled, hp, hpulls, hrun⟩ := run_ok hok
  obtain rfl : pulled = after := congrArg Prod.snd (hpulls.symm.trans hafter)
  rw [hrun] at hnear hsource ⊢
  have hok' : (t.run Depot.world again).1 = .ok () :=
    run_ok_iff.2 (hsource.available h hp rfl)
  obtain ⟨after', hafter', hcalls'⟩ := calls_depot hok'
  obtain ⟨pulled', hp', hpulls', hrun'⟩ := run_ok hok'
  obtain rfl : pulled' = after' := congrArg Prod.snd (hpulls'.symm.trans hafter')
  have hproper := hp.isProper rfl hd
  have hproper' := hp'.isProper rfl hagain
  -- what was pulled again is there already, so near nothing changes
  have hsame := hsource.near_pulled h hd hp hp' fun e => (hnear e).trans (by rw [Depot.near_push])
  have hnamed := near_named_named h hproper hproper' hsame
  have hfar := far_push_target (d := t.named pulled) h
  have hfar' := far_push_target (d := t.named pulled') h
  have hkept : (t.named pulled').far = again.far := (Depot.far_tagAll _).trans hp'.far
  refine ⟨hok', ?_, fun e => ?_, fun tag id hid => ⟨?_, ?_⟩, fun e he => ?_⟩
  · rw [hcalls, hcalls', listed_congr h hproper' hproper fun e he =>
      (hsame e).trans (near_named_source h hproper he)]
  · rw [hrun', Depot.near_push, Depot.near_push, hnamed]
  · rw [Depot.near_push] at hid
    rw [hfar, if_pos Entry.inRepository_name, hid, Option.some_or]
  · rw [Depot.near_push] at hid
    rw [hrun', hfar', if_pos Entry.inRepository_name, hnamed, hid, Option.some_or]
  · rw [hrun', hfar', hnamed, hkept]
    split
    · rename_i hname
      have hnone := he hname
      rw [Depot.near_push] at hnone
      rw [hnone, Option.none_or]
    · rfl

/-- A repository that is its own target under another spelling, with a stale tag near. -/
theorem run_again_alias :
    let t : Transfer :=
      ⟨"docker.io/alpine", "", "index.docker.io/library/alpine", "", ["3.20", "3.20"], false⟩
    let d : Depot :=
      { near := [(⟨"docker.io/library/alpine", "3.20"⟩, "old"),
          (⟨"docker.io/library/alpine", "dev"⟩, "new")]
        far := [(⟨"docker.io/library/alpine", "3.20"⟩, "new"),
          (⟨"docker.io/library/alpine", "3.19"⟩, "old")] }
    t.IsProper ∧ d.IsProper ∧ (t.run Depot.world d).1 = .ok () ∧
      (t.run Depot.world d).2.IsProper ∧
      t.IsUnchanged d (t.run Depot.world d).2 (t.run Depot.world d).2 ∧
      t.IsRepeated d (t.run Depot.world d).2 (t.run Depot.world d).2 := by
  intro t d
  have ht : t.IsProper := ⟨by decide, by decide, by decide⟩
  have hd : d.IsProper := by decide
  have hok : (t.run Depot.world d).1 = .ok () := by decide +kernel
  have hagain : (t.run Depot.world d).2.IsProper := by decide +kernel
  have hsource : t.IsUnchanged d (t.run Depot.world d).2 (t.run Depot.world d).2 :=
    fun _ _ => List.mem_cons_of_mem _ (List.mem_singleton_self _)
  exact ⟨ht, hd, hok, hagain, hsource, run_again ht hd hok hagain (fun _ => rfl) hsource⟩

end Transfer

end RegistrySync
