import RegistrySync.Proofs.Text.Cut
import RegistrySync.Task

/-!
The paths of a mapping, and when they are settled.

A path is trimmed of blanks first and of slashes at its end afterwards, so a blank that stands
before those slashes is left at the end. And whether a target path is left out is asked of the text
as it is written, so slashes alone make an empty target path that is not filled in. But for these, a
mapping that is made again from its own paths stays as it is.
-/

namespace RegistrySync

open Text

namespace Mapping

variable {path source target : String} {tags : List String}

/-- How the path of a mapping begins and ends: with one slash or more, and with none. -/
structure IsPath (path : String) : Prop where
  lead : path = "" ∨ path.toList.head? = some '/'
  slash : path.toList.getLast? ≠ some '/'
  start : ∀ c, path.toList.head? = some c → isBlank c = false

/-- A path without a blank at its end. -/
structure IsNormal (path : String) : Prop extends IsPath path where
  finish : ∀ c, path.toList.getLast? = some c → isBlank c = false

/-- A text that has a blank before slashes at its end, other blanks around it left aside. -/
def HidesBlank (path : String) : Prop :=
  ∃ before blank slashes after, path.toList = before ++ blank :: (slashes ++ after) ∧
    before.all isBlank = false ∧ isBlank blank = true ∧
    slashes ≠ [] ∧ slashes.all (· == '/') = true ∧ after.all isBlank = true

/-- A text of slashes, or of nothing, with blanks around it. -/
def IsVoid (path : String) : Prop :=
  ∃ before slashes after, path.toList = before ++ slashes ++ after ∧ before.all isBlank = true ∧
    slashes.all (· == '/') = true ∧ after.all isBlank = true

/-- What is left of a path when blanks and slashes are trimmed. -/
def core (path : String) : List Char := trimEndBy (· == '/') (trimBy isBlank path.toList)

lemma normalizePath_cases (path : String) :
    (core path = [] ∧ normalizePath path = "") ∨
    (core path).head? = some '/' ∧ (normalizePath path).toList = core path ∨
    core path ≠ [] ∧ (core path).head? ≠ some '/' ∧
      (normalizePath path).toList = '/' :: core path := by
  rw [normalizePath, ← core]
  split
  · rename_i h
    exact .inl ⟨h, rfl⟩
  · rename_i h
    refine .inr (.inl ⟨by rw [h]; rfl, ?_⟩)
    rw [String.toList_ofList]
  · rename_i hnil hslash
    refine .inr (.inr ⟨hnil, fun h => ?_, ?_⟩)
    · obtain ⟨rest, hrest⟩ := List.head?_eq_some_iff.1 h
      exact hslash rest hrest
    · rw [String.toList_ofList]

lemma normalizePath_eq_empty_iff : normalizePath path = "" ↔ core path = [] := by
  rcases normalizePath_cases path with ⟨hnil, h⟩ | ⟨hlead, h⟩ | ⟨hne, -, h⟩
  · simp [hnil, h]
  · rw [← String.toList_eq_nil_iff, h]
  · rw [← String.toList_eq_nil_iff, h]
    exact ⟨nofun, fun hnil => absurd hnil hne⟩

lemma getLast?_normalizePath : (normalizePath path).toList.getLast? = (core path).getLast? := by
  rcases normalizePath_cases path with ⟨hnil, h⟩ | ⟨-, h⟩ | ⟨hne, -, h⟩
  · rw [hnil, h]
    rfl
  · rw [h]
  · rw [h, List.getLast?_cons_of_ne_nil hne]

lemma isPath_normalizePath (path : String) : IsPath (normalizePath path) := by
  have hlead : normalizePath path = "" ∨ (normalizePath path).toList.head? = some '/' := by
    rcases normalizePath_cases path with ⟨-, h⟩ | ⟨hlead, h⟩ | ⟨-, -, h⟩
    · exact .inl h
    · rw [h]
      exact .inr hlead
    · rw [h]
      exact .inr rfl
  refine ⟨hlead, fun h => ?_, fun c hc => ?_⟩
  · rw [getLast?_normalizePath] at h
    have := getLast?_trimEndBy h
    simp at this
  · rcases hlead with hempty | hslash
    · rw [hempty] at hc
      cases hc
    · rw [hslash] at hc
      obtain rfl := Option.some.inj hc
      decide

lemma core_eq_nil_iff : core path = [] ↔ IsVoid path := by
  constructor
  · intro h
    obtain ⟨before, after, hbefore, hafter, hpath⟩ := exists_trimBy isBlank path.toList
    obtain ⟨slashes, hslashes, htrim⟩ := exists_trimEndBy (· == '/') (trimBy isBlank path.toList)
    rw [← core, h, List.nil_append] at htrim
    exact ⟨before, slashes, after, htrim ▸ hpath, hbefore, hslashes, hafter⟩
  · rintro ⟨before, slashes, after, hpath, hbefore, hslashes, hafter⟩
    have hplain : ∀ c ∈ slashes, isBlank c = false := by
      intro c hc
      obtain rfl := beq_iff_eq.1 (List.all_eq_true.1 hslashes c hc)
      decide
    have htrim : trimBy isBlank slashes = slashes :=
      trimBy_eq_self (fun c hc => hplain c (List.mem_of_head? hc))
        fun c hc => hplain c (List.mem_of_getLast? hc)
    rw [core, hpath, trimBy_surrounded hbefore hafter, htrim, trimEndBy_of_all hslashes]

lemma core_of_hidden {before slashes after : List Char} {blank : Char}
    (hpath : path.toList = before ++ blank :: (slashes ++ after))
    (hbefore : before.all isBlank = false) (hblank : isBlank blank = true) (hne : slashes ≠ [])
    (hslashes : slashes.all (· == '/') = true) (hafter : after.all isBlank = true) :
    core path = trimStartBy isBlank before ++ [blank] := by
  have hend : trimEndBy isBlank (trimStartBy isBlank before ++ blank :: slashes) =
      trimStartBy isBlank before ++ blank :: slashes := by
    refine trimEndBy_eq_self fun c hc => ?_
    rw [List.getLast?_append, List.getLast?_cons_of_ne_nil hne,
      List.getLast?_eq_some_getLast hne] at hc
    obtain rfl := Option.some.inj hc
    rw [beq_iff_eq.1 (List.all_eq_true.1 hslashes _ (List.getLast_mem hne))]
    decide
  have hmark : trimEndBy (· == '/') (trimStartBy isBlank before ++ [blank]) =
      trimStartBy isBlank before ++ [blank] := by
    rw [trimEndBy_concat, if_neg]
    intro hslash
    rw [beq_iff_eq.1 hslash] at hblank
    cases hblank
  rw [core, hpath, ← List.cons_append, ← List.append_assoc, trimBy_append_of_all hafter, trimBy,
    trimStartBy_append hbefore, hend, List.append_cons, trimEndBy_append hmark,
    trimEndBy_of_all hslashes, List.append_nil]

lemma hidesBlank_of_getLast? {blank : Char} (hlast : (core path).getLast? = some blank)
    (hblank : isBlank blank = true) : HidesBlank path := by
  obtain ⟨before, after, -, hafter, hpath⟩ := exists_trimBy isBlank path.toList
  obtain ⟨slashes, hslashes, htrim⟩ := exists_trimEndBy (· == '/') (trimBy isBlank path.toList)
  obtain ⟨start, hcore⟩ := List.getLast?_eq_some_iff.1 hlast
  rw [← core, hcore] at htrim
  have hstart : start.all isBlank = false := by
    rcases start with _ | ⟨c, start⟩
    · have hhead : (trimBy isBlank path.toList).head? = some blank := by rw [htrim]; rfl
      rw [head?_trimBy hhead] at hblank
      cases hblank
    · have hhead : (trimBy isBlank path.toList).head? = some c := by rw [htrim]; rfl
      rw [List.all_cons, head?_trimBy hhead, Bool.false_and]
  refine ⟨before ++ start, blank, slashes, after, ?_, ?_, hblank, ?_, hslashes, hafter⟩
  · rw [hpath, htrim]
    simp
  · rw [List.all_append, hstart, Bool.and_false]
  · rintro rfl
    have hend : (trimBy isBlank path.toList).getLast? = some blank := by
      rw [htrim, List.append_nil, List.getLast?_concat]
    rw [getLast?_trimBy hend] at hblank
    cases hblank

lemma hidesBlank_iff : HidesBlank path ↔ ∃ c, (core path).getLast? = some c ∧ isBlank c = true := by
  constructor
  · rintro ⟨before, blank, slashes, after, hpath, hbefore, hblank, hne, hslashes, hafter⟩
    refine ⟨blank, ?_, hblank⟩
    rw [core_of_hidden hpath hbefore hblank hne hslashes hafter, List.getLast?_concat]
  · rintro ⟨blank, hlast, hblank⟩
    exact hidesBlank_of_getLast? hlast hblank

lemma isNormal_normalizePath_iff : IsNormal (normalizePath path) ↔ ¬ HidesBlank path := by
  rw [hidesBlank_iff, ← getLast?_normalizePath]
  constructor
  · rintro h ⟨c, hc, hblank⟩
    rw [h.finish c hc] at hblank
    cases hblank
  · intro h
    refine ⟨isPath_normalizePath path, fun c hc => ?_⟩
    by_contra hblank
    exact h ⟨c, hc, by simpa using hblank⟩

lemma core_eq_self_iff (h : IsPath path) : core path = path.toList ↔ IsNormal path := by
  constructor
  · intro hcore
    have hle : (core path).length ≤ (trimBy isBlank path.toList).length :=
      trimEndBy_sublist.length_le
    rw [hcore] at hle
    have htrim : trimBy isBlank path.toList = path.toList := trimBy_sublist.eq_of_length_le hle
    refine ⟨h, fun c hc => ?_⟩
    rw [← htrim] at hc
    exact getLast?_trimBy hc
  · intro hnormal
    rw [core, trimBy_eq_self h.start hnormal.finish, trimEndBy_eq_self]
    intro c hc
    rw [beq_eq_false_iff_ne]
    rintro rfl
    exact h.slash hc

lemma head?_core (h : IsPath path) (hne : core path ≠ []) : (core path).head? = some '/' := by
  have hstart : trimStartBy isBlank path.toList = path.toList := trimStartBy_eq_self h.start
  obtain ⟨rest, hrest⟩ : core path <+: path.toList := by
    rw [core, trimBy, hstart]
    exact trimEndBy_prefix.trans trimEndBy_prefix
  obtain ⟨c, more, hcore⟩ := List.exists_cons_of_ne_nil hne
  rw [hcore] at hrest ⊢
  rcases h.lead with rfl | hslash
  · cases hrest
  · rwa [← hrest] at hslash

lemma normalizePath_eq_self_iff (h : IsPath path) : normalizePath path = path ↔ IsNormal path := by
  rw [← core_eq_self_iff h, ← String.toList_inj]
  rcases normalizePath_cases path with ⟨hnil, hpath⟩ | ⟨-, hpath⟩ | ⟨hne, hlead, -⟩
  · rw [hnil, hpath]
    rfl
  · rw [hpath]
  · exact absurd (head?_core h hne) hlead

lemma isVoid_of_onlyBlanks (h : onlyBlanks path) : IsVoid path :=
  ⟨path.toList, [], [], by simp, h, rfl, rfl⟩

lemma not_hidesBlank_of_isVoid (h : IsVoid path) : ¬ HidesBlank path := by
  rw [hidesBlank_iff, core_eq_nil_iff.2 h]
  rintro ⟨c, hc, -⟩
  cases hc

lemma onlyBlanks_iff (h : IsPath path) : onlyBlanks path ↔ path = "" := by
  constructor
  · intro hblank
    rcases h.lead with hempty | hslash
    · exact hempty
    · have := List.all_eq_true.1 hblank '/' (List.mem_of_head? hslash)
      cases this
  · rintro rfl
    rfl

lemma isVoid_iff : IsVoid path ↔ normalizePath path = "" := by
  rw [normalizePath_eq_empty_iff, core_eq_nil_iff]

lemma source_ofPaths : (ofPaths source target tags).source = normalizePath source := rfl

lemma target_ofPaths : (ofPaths source target tags).target =
    if onlyBlanks target then normalizePath source else normalizePath target := rfl

lemma isPath_target (source target : String) (tags : List String) :
    IsPath (ofPaths source target tags).target := by
  rw [target_ofPaths]
  split
  · exact isPath_normalizePath source
  · exact isPath_normalizePath target

lemma isNormal_ofPaths_iff :
    IsNormal (ofPaths source target tags).source ∧ IsNormal (ofPaths source target tags).target ↔
      ¬ HidesBlank source ∧ ¬ HidesBlank target := by
  rw [source_ofPaths, target_ofPaths, isNormal_normalizePath_iff]
  split
  · rename_i hblank
    have htarget := not_hidesBlank_of_isVoid (isVoid_of_onlyBlanks hblank)
    rw [isNormal_normalizePath_iff]
    exact ⟨fun h => ⟨h.1, htarget⟩, fun h => ⟨h.1, h.1⟩⟩
  · rw [isNormal_normalizePath_iff]

lemma ofPaths_eq_self_iff {m : Mapping} (hsource : IsPath m.source) (htarget : IsPath m.target) :
    ofPaths m.source m.target m.tags = m ↔
      IsNormal m.source ∧ IsNormal m.target ∧ (m.target = "" → m.source = "") := by
  obtain ⟨source, target, tags⟩ := m
  dsimp only at hsource htarget ⊢
  rw [Mapping.mk.injEq, source_ofPaths, target_ofPaths, normalizePath_eq_self_iff hsource]
  split
  · rename_i hblank
    obtain rfl := (onlyBlanks_iff htarget).1 hblank
    have hnormal : IsNormal "" := ⟨htarget, nofun⟩
    constructor
    · rintro ⟨hs, hfilled, -⟩
      exact ⟨hs, hnormal, fun _ => ((normalizePath_eq_self_iff hsource).2 hs) ▸ hfilled⟩
    · rintro ⟨hs, -, hempty⟩
      exact ⟨hs, ((normalizePath_eq_self_iff hsource).2 hs).trans (hempty rfl), rfl⟩
  · rename_i hblank
    rw [onlyBlanks_iff htarget] at hblank
    rw [normalizePath_eq_self_iff htarget]
    exact ⟨fun h => ⟨h.1, h.2.1, fun e => absurd e hblank⟩, fun h => ⟨h.1, h.2.1, rfl⟩⟩

lemma target_eq_empty_iff : (ofPaths source target tags).target = "" ↔
    if onlyBlanks target then IsVoid source else IsVoid target := by
  rw [target_ofPaths]
  split
  · rw [isVoid_iff]
  · rw [isVoid_iff]

/-- **When the paths of a mapping are settled.** The paths of a mapping are empty or begin with a
slash; they do not end with one, nor begin with a blank. That they do not end with a blank either
holds exactly if neither text has a blank before slashes at its end. And making the mapping again
from its own paths changes nothing exactly if, besides, the target is not written as slashes alone,
which leaves its path empty for now, while there is a source path to fill it in with. -/
theorem paths_settled_iff (source target : String) (tags : List String) :
    let m := ofPaths source target tags
    (IsPath m.source ∧ IsPath m.target) ∧
    (IsNormal m.source ∧ IsNormal m.target ↔ ¬ HidesBlank source ∧ ¬ HidesBlank target) ∧
    (ofPaths m.source m.target m.tags = m ↔ ¬ HidesBlank source ∧ ¬ HidesBlank target ∧
      (IsVoid target → onlyBlanks target ∨ IsVoid source)) := by
  intro m
  have hsource : IsPath m.source := isPath_normalizePath source
  have htarget : IsPath m.target := isPath_target source target tags
  refine ⟨⟨hsource, htarget⟩, isNormal_ofPaths_iff, ?_⟩
  have hempty : (m.target = "" → m.source = "") ↔
      (IsVoid target → onlyBlanks target ∨ IsVoid source) := by
    rw [target_eq_empty_iff, source_ofPaths, ← isVoid_iff]
    split
    · rename_i hblank
      simp [hblank]
    · rename_i hblank
      simp [hblank]
  rw [ofPaths_eq_self_iff hsource htarget, ← and_assoc, isNormal_ofPaths_iff, and_assoc, hempty]

/-- A blank that a slash hid is left at the end, until the mapping is made again; and a slash alone
is an empty target path that is filled in when the mapping is made again. -/
theorem paths_unsettled :
    let m := ofPaths "/a /" "" []
    let n := ofPaths "a" "/" []
    m = ⟨"/a ", "/a ", []⟩ ∧ ¬ IsNormal m.source ∧
      ofPaths m.source m.target m.tags = ⟨"/a", "/a", []⟩ ∧
      n = ⟨"/a", "", []⟩ ∧ ofPaths n.source n.target n.tags = ⟨"/a", "/a", []⟩ := by
  intro m n
  have hm : m = ⟨"/a ", "/a ", []⟩ := by decide +kernel
  have hn : n = ⟨"/a", "", []⟩ := by decide +kernel
  refine ⟨hm, fun h => ?_, by decide +kernel, hn, by decide +kernel⟩
  have hblank := h.finish ' ' (by rw [hm]; decide)
  cases hblank

end Mapping

end RegistrySync
