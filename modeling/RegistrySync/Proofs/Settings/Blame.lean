import RegistrySync.Proofs.Settings.Violation

/-!
Which task is blamed.

The check goes through the tasks with the names that it has seen. So it stops at the first task that
has a fault of its own or a name that was there before, and those before it are good and have
different names.
-/

namespace RegistrySync.Settings

open Text

variable {names : List String} {tasks before : List Task} {t : Task} {k : ℕ}

def Task.locationAt (t : Task) : Side → Location
  | .source => t.source
  | .target => t.target

/-- A fault of a task, whatever other tasks there are. -/
inductive Task.HasFault (t : Task) : TaskViolation → Prop where
  | blankName (h : onlyBlanks t.name) : HasFault t .blankName
  | blankRegistry {side : Side} (h : onlyBlanks (t.locationAt side).registry) :
      HasFault t (.blankRegistry side)
  | badCredential {side : Side} {why : Error} (hauth : ¬ onlyBlanks (t.locationAt side).auth)
      (h : Credential.decode (t.locationAt side).auth = .error why) :
      HasFault t (.badCredential side why)
  | noMapping (h : t.mappings = []) : HasFault t .noMapping
  | blankTag {m : Mapping} {tag : String} (hm : m ∈ t.mappings) (htag : tag ∈ m.tags)
      (h : onlyBlanks tag) : HasFault t .blankTag

/-- What a task behind tasks with the given names is blamed for: a fault of its own or, if it has
none, its name. -/
inductive Task.IsBlamed (t : Task) (names : List String) : Violation → Prop where
  | fault {v : TaskViolation} (hfault : t.HasFault v) (hv : t.violation = some v) :
      IsBlamed t names (.task t.name v)
  | repeated (hvalid : t.IsValid) (hname : t.name ∈ names) : IsBlamed t names (.repeatedName t.name)

/-- The task at a place is not good, or has the name of one before it. -/
def IsOffender (tasks : List Task) (k : ℕ) : Prop :=
  ∃ t, tasks[k]? = some t ∧ (¬ t.IsValid ∨ t.IsValid ∧ t.name ∈ (tasks.take k).map Task.name)

/-- The first offender, behind good tasks with different names. -/
structure IsFirstOffender (tasks : List Task) (k : ℕ) : Prop where
  offends : IsOffender tasks k
  least : ∀ j < k, ¬ IsOffender tasks j
  valid : ∀ u ∈ tasks.take k, u.IsValid
  distinct : ((tasks.take k).map Task.name).Nodup

/-! ### Faults -/

lemma Location.violation_eq_some (side : Side) {v : TaskViolation}
    (h : (t.locationAt side).violation side = some v) : t.HasFault v := by
  rw [Location.violation] at h
  split at h
  · rename_i hregistry
    cases h
    exact .blankRegistry hregistry
  · split at h
    · cases h
    · rename_i hauth
      split at h
      · cases h
      · rename_i hdecode
        cases h
        exact .badCredential hauth hdecode

lemma Task.hasFault_of_violation {v : TaskViolation} (h : t.violation = some v) : t.HasFault v := by
  rw [Task.violation] at h
  split at h
  · rename_i hname
    cases h
    exact .blankName hname
  · simp only [Option.orElse_eq_orElse, Option.orElse_eq_or, Option.or_eq_some_iff] at h
    rcases h with hsource | ⟨-, htarget | ⟨-, hrest⟩⟩
    · exact Location.violation_eq_some .source hsource
    · exact Location.violation_eq_some .target htarget
    · split at hrest
      · rename_i hmappings
        cases hrest
        exact .noMapping (List.isEmpty_iff.1 hmappings)
      · split at hrest
        · rename_i hany
          cases hrest
          obtain ⟨m, hm, hany⟩ := List.any_eq_true.1 hany
          obtain ⟨tag, htag, hblank⟩ := List.any_eq_true.1 hany
          exact .blankTag hm htag hblank
        · cases hrest

lemma Task.IsBlamed.offends {v : Violation} (h : t.IsBlamed names v) :
    ¬ t.IsValid ∨ t.IsValid ∧ t.name ∈ names := by
  cases h with
  | fault _ hv =>
    refine .inl fun hvalid => ?_
    rw [Task.violation_eq_none.2 hvalid] at hv
    cases hv
  | repeated hvalid hname => exact .inr ⟨hvalid, hname⟩

lemma Task.IsBlamed.mono {names' : List String} {v : Violation} (h : t.IsBlamed names v)
    (hnames : names ⊆ names') : t.IsBlamed names' v := by
  cases h with
  | fault hfault hv => exact .fault hfault hv
  | repeated hvalid hname => exact .repeated hvalid (hnames hname)

/-! ### Lists of tasks -/

lemma firstViolation_eq_some {v : Violation} (h : firstViolation names tasks = some v) :
    ∃ before t after, tasks = before ++ t :: after ∧ (∀ u ∈ before, u.IsValid) ∧
      (before.map Task.name).Nodup ∧ (∀ u ∈ before, u.name ∉ names) ∧
      t.IsBlamed (before.map Task.name ++ names) v := by
  induction tasks generalizing names with
  | nil => cases h
  | cons t tasks ih =>
    rw [firstViolation] at h
    split at h
    · rename_i w hw
      cases h
      have hblamed : t.IsBlamed names (.task t.name w) := .fault (Task.hasFault_of_violation hw) hw
      exact ⟨[], t, tasks, rfl, List.forall_mem_nil _, List.nodup_nil, List.forall_mem_nil _,
        hblamed⟩
    · rename_i hvalid
      rw [Task.violation_eq_none] at hvalid
      split at h
      · rename_i hname
        cases h
        have hblamed : t.IsBlamed names (.repeatedName t.name) :=
          .repeated hvalid (by simpa using hname)
        exact ⟨[], t, tasks, rfl, List.forall_mem_nil _, List.nodup_nil, List.forall_mem_nil _,
          hblamed⟩
      · rename_i hname
        obtain ⟨before, u, after, rfl, hbefore, hnodup, hnew, hblamed⟩ := ih h
        -- the name of this task is among those that the rest is checked against
        have hdifferent : ∀ w ∈ before, w.name ≠ t.name := fun w hw e =>
          hnew w hw (e ▸ List.mem_cons_self)
        refine ⟨t :: before, u, after, rfl, List.forall_mem_cons.2 ⟨hvalid, hbefore⟩, ?_,
          List.forall_mem_cons.2 ⟨by simpa using hname, fun w hw hmem =>
            hnew w hw (List.mem_cons_of_mem t.name hmem)⟩, hblamed.mono ?_⟩
        · rw [List.map_cons, List.nodup_cons]
          refine ⟨fun hmem => ?_, hnodup⟩
          obtain ⟨w, hw, hsame⟩ := List.mem_map.1 hmem
          exact hdifferent w hw hsame
        · intro name hmem
          simp only [List.mem_append, List.mem_cons, List.map_cons] at hmem ⊢
          tauto

lemma not_isOffender {after : List Task} (hvalid : ∀ u ∈ before, u.IsValid)
    (hdistinct : (before.map Task.name).Nodup) {j : ℕ} (hj : j < before.length) :
    ¬ IsOffender (before ++ after) j := by
  rintro ⟨u, hu, hoffends⟩
  rw [List.getElem?_append_left hj] at hu
  have hgood : u.IsValid := hvalid u (List.mem_of_getElem? hu)
  rcases hoffends with hbad | ⟨-, hname⟩
  · exact hbad hgood
  · rw [List.take_append_of_le_length (Nat.le_of_lt hj)] at hname
    have hcut : before = before.take j ++ u :: before.drop (j + 1) := by
      obtain ⟨hj, rfl⟩ := List.getElem?_eq_some_iff.1 hu
      rw [← List.drop_eq_getElem_cons hj, List.take_append_drop]
    rw [hcut, List.map_append, List.nodup_append] at hdistinct
    exact hdistinct.2.2 u.name hname u.name (by simp) rfl

lemma isFirstOffender_of_isBlamed {after : List Task} {v : Violation}
    (hvalid : ∀ u ∈ before, u.IsValid) (hdistinct : (before.map Task.name).Nodup)
    (h : t.IsBlamed (before.map Task.name) v) :
    IsFirstOffender (before ++ t :: after) before.length := by
  have htake : (before ++ t :: after).take before.length = before := by simp
  refine ⟨⟨t, by simp, ?_⟩, fun j hj => not_isOffender hvalid hdistinct hj, ?_, ?_⟩
  · rw [htake]
    exact h.offends
  · rwa [htake]
  · rwa [htake]

lemma check_eq_ok_iff {s : Settings} : s.check = .ok s ↔ s.IsValid := by
  rw [← violation_eq_none, check]
  rcases s.violation with _ | v
  · exact ⟨fun _ => rfl, fun _ => rfl⟩
  · exact ⟨nofun, nofun⟩

lemma check_eq_error {s : Settings} {e : Error} (h : s.check = .error e)
    (ha : 0 < s.daemon.pingAttempts) (ht : s.tasks ≠ []) :
    ∃ v, firstViolation [] s.tasks = some v ∧ e = v.error := by
  have hviolation : s.violation = firstViolation [] s.tasks := by
    rw [violation, if_neg (UInt32.pos_iff_ne_zero.1 ha), if_neg (by simpa using ht)]
  rw [check, hviolation] at h
  split at h
  · rename_i v hv
    cases h
    exact ⟨v, hv, rfl⟩
  · cases h

/-- **The check accepts good settings and blames the first offender.** It accepts exactly the
settings in which there is an attempt and a task, each task is good, and no name is there twice. If
there are an attempt and a task, then what it tells of is a task that is not good, and a fault that
this task has, or a good task with the name of one before it; and the tasks before that one are good
and have different names. -/
theorem check_blames_first_offender (s : Settings) :
    (s.check = .ok s ↔ s.IsValid) ∧
    ∀ e, s.check = .error e → 0 < s.daemon.pingAttempts → s.tasks ≠ [] →
      ∃ k t v, s.tasks[k]? = some t ∧ IsFirstOffender s.tasks k ∧
        t.IsBlamed ((s.tasks.take k).map Task.name) v ∧ e = v.error := by
  refine ⟨check_eq_ok_iff, fun e he ha ht => ?_⟩
  obtain ⟨v, hv, rfl⟩ := check_eq_error he ha ht
  obtain ⟨before, t, after, htasks, hvalid, hdistinct, -, hblamed⟩ := firstViolation_eq_some hv
  rw [List.append_nil] at hblamed
  have htake : (before ++ t :: after).take before.length = before := by simp
  rw [htasks]
  refine ⟨before.length, t, v, by simp, isFirstOffender_of_isBlamed hvalid hdistinct hblamed, ?_,
    rfl⟩
  rwa [htake]

/-- The second task has the name of the first, and the third has no name: the second is blamed. -/
theorem check_blames_first_offender_repeated :
    let task (name : String) : Task := ⟨name, 0, false, ⟨"docker.io/library", ""⟩,
      ⟨"quay.io/mirror", " "⟩, [⟨"alpine", "", ["3.18"]⟩]⟩
    let s : Settings := ⟨Daemon.default, [task "a", task "a", task " "]⟩
    let e : Error := .config "duplicate task name 'a'"
    s.check = .error e ∧ 0 < s.daemon.pingAttempts ∧ s.tasks ≠ [] ∧
      ∃ k t v, s.tasks[k]? = some t ∧ IsFirstOffender s.tasks k ∧
        t.IsBlamed ((s.tasks.take k).map Task.name) v ∧ e = v.error := by
  intro task s e
  have hcheck : s.check = .error e := by decide +kernel
  have hattempts : 0 < s.daemon.pingAttempts := by decide
  have htasks : s.tasks ≠ [] := nofun
  exact ⟨hcheck, hattempts, htasks, (check_blames_first_offender s).2 e hcheck hattempts htasks⟩

end RegistrySync.Settings
