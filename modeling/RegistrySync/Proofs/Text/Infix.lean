import Mathlib.Data.List.Infix
import RegistrySync.Proofs.Text.Cut

/-!
Texts within texts.

A text is found in a larger one exactly if it stands there. One without a separator stands in one of
the parts that the separator keeps apart, and one without blanks stands in what trimming leaves.
-/

namespace RegistrySync.Text

variable {needle a b cs : List Char} {c sep : Char} {p : Char → Bool}

lemma contains_iff_infix : contains needle cs = true ↔ needle <:+: cs := by
  induction cs with
  | nil => rw [contains, List.isEmpty_iff, List.infix_nil]
  | cons x xs ih =>
    rw [contains, Bool.or_eq_true, List.isPrefixOf_iff_prefix, ih, List.infix_cons_iff]

lemma not_infix_of_not_mem (hc : c ∈ needle) (h : c ∉ cs) : ¬ needle <:+: cs :=
  fun hi => h (hi.subset hc)

lemma infix_append_cons_iff (h : sep ∉ needle) :
    needle <:+: a ++ sep :: b ↔ needle <:+: a ∨ needle <:+: b := by
  constructor
  · intro hi
    rcases List.infix_append_iff.1 hi with ha | hb | ⟨l, m, rfl, hl, hm⟩
    · exact .inl ha
    · rcases List.infix_cons_iff.1 hb with hb | hb
      · rcases List.prefix_cons_iff.1 hb with rfl | ⟨t, rfl, -⟩
        · exact .inl (List.nil_infix)
        · exact absurd List.mem_cons_self h
      · exact .inr hb
    · rcases List.prefix_cons_iff.1 hm with rfl | ⟨t, rfl, -⟩
      · rw [List.append_nil]
        exact .inl hl.isInfix
      · exact absurd (List.mem_append_right l List.mem_cons_self) h
  · rintro (ha | hb)
    · exact ha.trans (List.prefix_append _ _).isInfix
    · exact hb.trans ((List.suffix_cons sep b).trans (List.suffix_append a _)).isInfix

lemma infix_intercalate_iff (h : sep ∉ needle) (hne : needle ≠ []) (parts : List (List Char)) :
    needle <:+: [sep].intercalate parts ↔ ∃ part ∈ parts, needle <:+: part := by
  induction parts with
  | nil => simpa [List.intercalate] using hne
  | cons first rest ih =>
    rcases rest with _ | ⟨second, rest⟩
    · simp
    · rw [List.intercalate_cons_cons, List.append_assoc, List.singleton_append,
        infix_append_cons_iff h, ih]
      exact (List.exists_mem_cons_iff ..).symm

lemma infix_dropWhile_iff (h : ∀ x ∈ needle, p x = false) (hne : needle ≠ []) (cs : List Char) :
    needle <:+: cs.dropWhile p ↔ needle <:+: cs := by
  induction cs with
  | nil => rfl
  | cons x xs ih =>
    rw [List.dropWhile_cons]
    split
    · rename_i hx
      rw [ih, List.infix_cons_iff, List.prefix_cons_iff]
      refine ⟨.inr, fun hi => hi.resolve_left ?_⟩
      rintro (rfl | ⟨t, rfl, -⟩)
      · exact hne rfl
      · rw [h x List.mem_cons_self] at hx
        cases hx
    · rfl

lemma infix_trimBy_iff (h : ∀ x ∈ needle, p x = false) (hne : needle ≠ []) :
    needle <:+: trimBy p cs ↔ needle <:+: cs := by
  have hreverse : ∀ x ∈ needle.reverse, p x = false := fun x hx => h x (List.mem_reverse.1 hx)
  rw [trimBy, trimEndBy, ← List.reverse_infix, List.reverse_reverse,
    infix_dropWhile_iff hreverse (mt List.reverse_eq_nil_iff.1 hne), List.reverse_infix,
    trimStartBy, infix_dropWhile_iff h hne]

end RegistrySync.Text
