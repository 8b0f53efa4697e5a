import RegistrySync.Proofs.Image.Parts

/-!
The normal spelling tells repositories apart.

Two names have one normal spelling exactly if they name one repository: the same host, where the hub
has several names, and the same path, where the hub has a folder for single segments. The normal
spelling is its own, and neither a tag nor a digest behind a name changes it.
-/

namespace RegistrySync.Reference

open Text

variable {r s : Reference} {x y : String}

/-- What the hub goes by; a name without a host is on the hub. -/
def hubHosts : List String := ["", "docker.io", "index.docker.io", "registry-1.docker.io"]

def isOnHub (r : Reference) : Bool := hubHosts.contains r.repo

/-- The path under the host, with the folder that the hub keeps single segments in. -/
def fullPath (r : Reference) : String :=
  if r.isOnHub ∧ '/' ∉ r.path.toList then "library/" ++ r.path else r.path

/-- Both name one repository. -/
structure IsSameRepository (r s : Reference) : Prop where
  host : r.repo = s.repo ∨ r.isOnHub ∧ s.isOnHub
  path : r.fullPath = s.fullPath

/-! ### Normal parts -/

lemma isOnHub_iff : r.isOnHub ↔ normalizeHost r.repo = hubHost := by
  simp only [isOnHub, hubHosts, List.contains_iff_mem, List.mem_cons, List.not_mem_nil, or_false,
    normalizeHost, hubHost]
  split
  · rename_i h
    tauto
  · rename_i h
    tauto

lemma normalizeHost_of_not_isOnHub (h : ¬ r.isOnHub) : normalizeHost r.repo = r.repo := by
  rw [normalizeHost, if_neg]
  rintro (e | e | e) <;> exact h (by rw [isOnHub, e]; decide)

lemma normalizeHost_eq_iff :
    normalizeHost r.repo = normalizeHost s.repo ↔ r.repo = s.repo ∨ r.isOnHub ∧ s.isOnHub := by
  constructor
  · intro h
    by_cases hr : r.isOnHub
    · exact .inr ⟨hr, isOnHub_iff.2 (h ▸ isOnHub_iff.1 hr)⟩
    · have hs : ¬ s.isOnHub := fun hs => hr (isOnHub_iff.2 (h ▸ isOnHub_iff.1 hs))
      rw [normalizeHost_of_not_isOnHub hr, normalizeHost_of_not_isOnHub hs] at h
      exact .inl h
  · rintro (h | ⟨hr, hs⟩)
    · rw [h]
    · rw [isOnHub_iff.1 hr, isOnHub_iff.1 hs]

lemma normal_path (r : Reference) : r.normal.path = r.fullPath := by
  have hfolder : hubFolder ++ "/" ++ r.path = "library/" ++ r.path := by
    rw [show hubFolder ++ "/" = "library/" by decide]
  rw [normal, fullPath, hfolder]
  simp only [isOnHub_iff, List.contains_eq_mem, decide_eq_true_eq]

lemma normal_eq_iff : r.normal = s.normal ↔ r.IsSameRepository s := by
  constructor
  · intro h
    refine ⟨normalizeHost_eq_iff.1 (congrArg repo h), ?_⟩
    rw [← normal_path, ← normal_path, h]
  · rintro ⟨hhost, hpath⟩
    rw [← normal_path, ← normal_path] at hpath
    have hrepo : r.normal.repo = s.normal.repo := normalizeHost_eq_iff.2 hhost
    rw [Reference.mk.injEq]
    exact ⟨hrepo, hpath, rfl⟩

/-! ### Normal spellings -/

/-- There is a path, and nothing in it can be taken for a tag. -/
def HasClearPath (x : String) : Prop := (parse x).path ≠ "" ∧ ':' ∉ (parse x).path.toList

instance (x : String) : Decidable (HasClearPath x) := inferInstanceAs (Decidable (_ ∧ _))

namespace HasClearPath

lemma isWritable_normal (h : HasClearPath x) : (parse x).normal.IsWritable :=
  (isShaped_parse x).normal h.1 fun hm => h.2 (mem_of_mem_lastSegment hm)

lemma parse_normalizeName (h : HasClearPath x) : parse (normalizeName x) = (parse x).normal := by
  rw [normalizeName_eq h.1]
  exact h.isWritable_normal.parse_name rfl

lemma normalizeName_idem (h : HasClearPath x) :
    normalizeName (normalizeName x) = normalizeName x := by
  have hne : (parse (normalizeName x)).path ≠ "" := by
    rw [h.parse_normalizeName]
    exact h.isWritable_normal.path_ne
  rw [normalizeName_eq hne, h.parse_normalizeName, normal_idem, normalizeName_eq h.1]

lemma normalizeName_eq_iff (hx : HasClearPath x) (hy : HasClearPath y) :
    normalizeName x = normalizeName y ↔ (parse x).IsSameRepository (parse y) := by
  rw [← normal_eq_iff]
  constructor
  · intro h
    rw [← hx.parse_normalizeName, ← hy.parse_normalizeName, h]
  · intro h
    rw [normalizeName_eq hx.1, normalizeName_eq hy.1, h]

end HasClearPath

lemma normalizeName_congr (hx : (parse x).path ≠ "") (hrepo : (parse y).repo = (parse x).repo)
    (hpath : (parse y).path = (parse x).path) : normalizeName y = normalizeName x := by
  have hy : (parse y).path ≠ "" := by rwa [hpath]
  rw [normalizeName_eq hx, normalizeName_eq hy, normal, normal, hrepo, hpath]

/-- **One repository, one spelling.** The normal spelling of a name is its own, and two names have
the same one exactly if they name the same repository. Behind a plain reference, tags and digests
make no difference to it. -/
theorem normalizeName_is_canonical :
    (∀ x y, HasClearPath x → HasClearPath y →
      normalizeName (normalizeName x) = normalizeName x ∧
      (normalizeName x = normalizeName y ↔ (parse x).IsSameRepository (parse y))) ∧
    ∀ x, IsPlain x →
      (∀ tag, isTag tag → normalizeName (x ++ ":" ++ tag) = normalizeName x) ∧
      ∀ digest, normalizeName (x ++ "@" ++ digest) = normalizeName x := by
  refine ⟨fun x y hx hy => ⟨hx.normalizeName_idem, hx.normalizeName_eq_iff hy⟩, fun x hx => ?_⟩
  refine ⟨fun tag ht => ?_, fun digest => ?_⟩
  · have htagged := hx.parse_tagged ht
    exact normalizeName_congr hx.1 (by rw [htagged]) (by rw [htagged])
  · have hdigest : parse (x ++ "@" ++ digest) = parse x := parse_digest hx.digest
    exact normalizeName_congr hx.1 (by rw [hdigest]) (by rw [hdigest])

/-- A name of the hub under two of its hosts, and the same path on another host with a port. -/
theorem normalizeName_is_canonical_hub :
    let x := "alpine"
    let y := "index.docker.io/library/alpine:3.18"
    let z := "localhost:5000/library/alpine"
    HasClearPath x ∧ HasClearPath y ∧ HasClearPath z ∧ IsPlain x ∧ isTag "3.18" ∧
      normalizeName x = normalizeName y ∧ normalizeName x ≠ normalizeName z ∧
      normalizeName "alpine:3.18" = normalizeName x := by
  intro x y z
  have hx : HasClearPath x := by decide
  have hy : HasClearPath y := by decide
  have hz : HasClearPath z := by decide
  have hplain : IsPlain x := by decide
  have hsame : (parse x).IsSameRepository (parse y) := ⟨by decide, by decide⟩
  have hother : ¬ (parse x).IsSameRepository (parse z) := fun h => absurd h.host (by decide)
  obtain ⟨hnames, htagged⟩ := normalizeName_is_canonical
  exact ⟨hx, hy, hz, hplain, by decide, (hnames x y hx hy).2.2 hsame,
    fun h => hother ((hnames x z hx hz).2.1 h), (htagged x hplain).1 "3.18" (by decide)⟩

end RegistrySync.Reference
