import Mathlib.Data.List.Forall2
import Mathlib.Tactic.Lemma
import RegistrySync.Proofs.Text.Cut
import RegistrySync.Proofs.Text.Utf8

/-!
Lines of texts that are put together.

A text that is ended by a line break has as many lines as it has line breaks. So texts that each are
written with a head and a line break are told apart by the heads of the lines exactly if none of
them has a line break inside.
-/

namespace RegistrySync.Text

variable {a b cs : List Char}

lemma length_pieces (c : Char) (cs : List Char) : (pieces c cs).length = cs.count c + 1 := by
  induction cs with
  | nil => rfl
  | cons x xs ih =>
    rw [pieces, List.count_cons]
    by_cases hx : x = c
    · simp [hx, ih]
    · rcases h : pieces c xs with _ | ⟨p, ps⟩
      · exact absurd h (pieces_ne_nil c xs)
      · rw [h] at ih
        simpa [hx] using ih

lemma lines_append (a b : List Char) : lines (a ++ '\n' :: b) = pieces '\n' a ++ lines b := by
  have hb := pieces_ne_nil '\n' b
  have hlast : (pieces '\n' (a ++ '\n' :: b)).getLast? = (pieces '\n' b).getLast? := by
    rw [pieces_append, List.getLast?_append, List.getLast?_eq_some_getLast hb, Option.some_or]
  rw [lines, lines, hlast]
  split
  · rw [pieces_append, List.dropLast_append_of_ne_nil hb]
  · rw [pieces_append]

lemma lines_flatMap {α : Type} (f : α → List Char) (as : List α) :
    lines (as.flatMap fun a => f a ++ ['\n']) = as.flatMap fun a => pieces '\n' (f a) := by
  induction as with
  | nil => rfl
  | cons a as ih =>
    rw [List.flatMap_cons, List.flatMap_cons, List.append_assoc, List.singleton_append, lines_append,
      ih]

lemma length_lines_flatMap {α : Type} (f : α → List Char) (as : List α) :
    as.length ≤ (lines (as.flatMap fun a => f a ++ ['\n'])).length ∧
      ((lines (as.flatMap fun a => f a ++ ['\n'])).length = as.length →
        ∀ a ∈ as, (f a).count '\n' = 0) := by
  rw [lines_flatMap]
  induction as with
  | nil => exact ⟨Nat.le_refl 0, fun _ a ha => absurd ha List.not_mem_nil⟩
  | cons a as ih =>
    obtain ⟨hle, hone⟩ := ih
    rw [List.flatMap_cons, List.length_append, length_pieces, List.length_cons]
    refine ⟨by omega, fun h => List.forall_mem_cons.2 ⟨by omega, hone (by omega)⟩⟩

/-- The lines begin with the heads of the texts, one after the other, exactly if no text is broken.
-/
lemma forall₂_lines_iff {α : Type} (head body : α → List Char) (as : List α)
    (hhead : ∀ a ∈ as, '\n' ∉ head a) :
    List.Forall₂ (fun a line => head a <+: line) as
        (lines (as.flatMap fun a => head a ++ body a ++ ['\n'])) ↔ ∀ a ∈ as, '\n' ∉ body a := by
  constructor
  · intro h a ha
    have hzero := (length_lines_flatMap _ as).2 h.length_eq.symm a ha
    rw [List.count_append] at hzero
    exact List.count_eq_zero.1 (Nat.eq_zero_of_add_eq_zero_left hzero)
  · intro h
    rw [lines_flatMap]
    have hone : (as.flatMap fun a => pieces '\n' (head a ++ body a)) =
        as.map fun a => head a ++ body a := by
      rw [List.map_eq_flatMap]
      refine List.flatMap_congr fun a ha => pieces_eq_self ?_
      exact fun hmem => (List.mem_append.1 hmem).elim (hhead a ha) (h a ha)
    rw [hone, List.forall₂_map_right_iff, List.forall₂_same]
    exact fun a _ => List.prefix_append _ _

/-! ### Lines of bytes -/

lemma newline_not_mem_trim {line : List UInt8}
    (h : (∃ body, line = body ++ [10] ∧ 10 ∉ body) ∨ 10 ∉ line) :
    '\n' ∉ (trim (Utf8.decodeLossy line)).toList := by
  have hplain {bs : List UInt8} (hbs : 10 ∉ bs) :
      '\n' ∉ trimBy isBlank (Utf8.decodeLossyChars bs) := fun hmem =>
    hbs (Utf8.newline_mem_of_mem_decodeLossyChars (trimBy_sublist.subset hmem))
  rw [trim, Utf8.decodeLossy, String.toList_ofList, String.toList_ofList]
  rcases h with ⟨body, rfl, hbody⟩ | h
  · have hnil : Utf8.decodeLossyChars [] = [] := by rw [Utf8.decodeLossyChars]
    rw [Utf8.decodeLossyChars_append (by decide), hnil, trimBy_concat rfl]
    exact hplain hbody
  · exact hplain h

end RegistrySync.Text
