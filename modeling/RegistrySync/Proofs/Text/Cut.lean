import Mathlib.Data.List.Induction
import Mathlib.Data.List.TakeWhile
import Mathlib.Tactic.Lemma
import RegistrySync.Text.Blank
import RegistrySync.Text.Cut

/-!
Cutting and trimming of texts whose parts are known.
-/

namespace RegistrySync.Text

variable {c : Char} {a b cs : List Char} {p : Char → Bool}

lemma cutFirst_append (h : c ∉ a) : cutFirst c (a ++ c :: b) = some (a, b) := by
  induction a with
  | nil => simp [cutFirst]
  | cons x a ih =>
    obtain ⟨hx, ha⟩ := not_or.1 (mt List.mem_cons.2 h)
    rw [List.cons_append, cutFirst, if_neg (Ne.symm hx), ih ha]
    rfl

lemma cutLast_append (h : c ∉ b) : cutLast c (a ++ c :: b) = some (a, b) := by
  induction a with
  | nil => simp [cutLast, cutLast_eq_none.2 h]
  | cons x a ih =>
    rw [List.cons_append, cutLast, ih]

lemma append_cons_cases {x y : Char} {u v : List Char} (hxy : x ≠ y)
    (h : a ++ x :: b = u ++ y :: v) :
    (∃ more, u = a ++ x :: more) ∨ ∃ more, a = u ++ y :: more ∧ v = more ++ x :: b := by
  rcases List.append_eq_append_iff.1 h with ⟨more, hu, hmore⟩ | ⟨more, ha, hmore⟩
  · rcases more with _ | ⟨c, more⟩
    · exact absurd (List.cons.inj hmore).1 hxy
    · obtain ⟨rfl, -⟩ := List.cons.inj hmore
      exact .inl ⟨more, hu⟩
  · rcases more with _ | ⟨c, more⟩
    · exact absurd (List.cons.inj hmore).1.symm hxy
    · obtain ⟨rfl, hv⟩ := List.cons.inj hmore
      exact .inr ⟨more, ha, hv⟩

lemma pieces_ne_nil (c : Char) (cs : List Char) : pieces c cs ≠ [] := by
  induction cs with
  | nil => nofun
  | cons x xs ih =>
    rw [pieces]
    split
    · nofun
    · split <;> nofun

lemma pieces_append (a b : List Char) : pieces c (a ++ c :: b) = pieces c a ++ pieces c b := by
  induction a with
  | nil => simp [pieces]
  | cons x a ih =>
    rw [List.cons_append, pieces, pieces, ih]
    by_cases hx : x = c
    · simp [hx]
    · rcases h : pieces c a with _ | ⟨p, ps⟩
      · exact absurd h (pieces_ne_nil c a)
      · simp [hx]

lemma pieces_eq_self (h : c ∉ cs) : pieces c cs = [cs] := by
  induction cs with
  | nil => rfl
  | cons x xs ih =>
    obtain ⟨hx, hxs⟩ := not_or.1 (mt List.mem_cons.2 h)
    rw [pieces, if_neg (Ne.symm hx), ih hxs]

lemma intercalate_pieces (c : Char) (cs : List Char) : [c].intercalate (pieces c cs) = cs := by
  induction cs with
  | nil => rfl
  | cons x xs ih =>
    rw [pieces]
    rcases h : pieces c xs with _ | ⟨p, ps⟩
    · exact absurd h (pieces_ne_nil c xs)
    · rw [h] at ih
      split
      · rename_i hx
        rw [List.intercalate_cons_cons, ih, hx]
        rfl
      · dsimp only
        rw [← ih]
        rcases ps with _ | ⟨q, qs⟩
        · rw [List.intercalate_singleton, List.intercalate_singleton]
        · rw [List.intercalate_cons_cons, List.intercalate_cons_cons]
          rfl

lemma infix_intercalate {sep part : List Char} {parts : List (List Char)} (h : part ∈ parts) :
    part <:+: sep.intercalate parts := by
  induction parts with
  | nil => cases h
  | cons first rest ih =>
    rcases rest with _ | ⟨second, rest⟩
    · obtain rfl := List.mem_singleton.1 h
      simp only [List.intercalate_singleton, List.infix_rfl]
    · rw [List.intercalate_cons_cons]
      rcases List.mem_cons.1 h with rfl | h
      · exact ((List.prefix_append ..).trans (List.prefix_append ..)).isInfix
      · exact (ih h).trans (List.suffix_append ..).isInfix

lemma mem_intercalate {sep : List Char} {parts : List (List Char)}
    (h : c ∈ sep.intercalate parts) : c ∈ sep ∨ ∃ part ∈ parts, c ∈ part := by
  induction parts with
  | nil => cases h
  | cons first rest ih =>
    rcases rest with _ | ⟨second, rest⟩
    · rw [List.intercalate_singleton] at h
      exact .inr ⟨first, List.mem_cons_self, h⟩
    · rw [List.intercalate_cons_cons] at h
      rcases List.mem_append.1 h with h | h
      · rcases List.mem_append.1 h with h | h
        · exact .inr ⟨first, List.mem_cons_self, h⟩
        · exact .inl h
      · rcases ih h with h | ⟨part, hpart, hc⟩
        · exact .inl h
        · exact .inr ⟨part, List.mem_cons_of_mem first hpart, hc⟩

lemma toList_joinWith (sep : String) (parts : List (List Char)) :
    (joinWith sep (parts.map String.ofList)).toList = sep.toList.intercalate parts := by
  have hlists : (parts.map String.ofList).map String.toList = parts := by
    simp only [List.map_map, Function.comp_def, String.toList_ofList, List.map_id']
  rw [joinWith, String.toList_intercalate, hlists]

lemma infix_of_mem_pieces {part : List Char} (h : part ∈ pieces c cs) : part <:+: cs := by
  have hpart : part <:+: [c].intercalate (pieces c cs) := infix_intercalate h
  rwa [intercalate_pieces] at hpart

lemma cutFirst_cases (c : Char) (cs : List Char) :
    cutFirst c cs = none ∧ cs.takeWhile (· != c) = cs ∨
      ∃ rest, cutFirst c cs = some (cs.takeWhile (· != c), rest) := by
  induction cs with
  | nil => exact .inl ⟨rfl, rfl⟩
  | cons x xs ih =>
    by_cases hx : x = c
    · exact .inr ⟨xs, by simp [cutFirst, hx]⟩
    · have hwhile : (x :: xs).takeWhile (· != c) = x :: xs.takeWhile (· != c) :=
        List.takeWhile_cons_of_pos (bne_iff_ne.2 hx)
      rw [cutFirst, if_neg hx, hwhile]
      rcases ih with ⟨hnone, hall⟩ | ⟨rest, hsome⟩
      · rw [hnone, hall]
        exact .inl ⟨rfl, rfl⟩
      · rw [hsome]
        exact .inr ⟨rest, rfl⟩

lemma stripLead_eq_some {lead rest : List Char} (h : stripLead lead cs = some rest) :
    cs = lead ++ rest := by
  induction lead generalizing cs with
  | nil => exact Option.some.inj h
  | cons x lead ih =>
    rcases cs with _ | ⟨y, cs⟩
    · cases h
    · rw [stripLead, Option.ite_none_right_eq_some] at h
      obtain ⟨rfl, h⟩ := h
      rw [ih h, List.cons_append]

lemma stripLead_append (lead rest : List Char) : stripLead lead (lead ++ rest) = some rest := by
  induction lead with
  | nil => rfl
  | cons x lead ih => rw [List.cons_append, stripLead, if_pos rfl, ih]

/-! ### Segments of a path -/

def firstSegment (path : List Char) : List Char := ((cutFirst '/' path).map (·.1)).getD path

def lastSegment (path : List Char) : List Char := ((cutLast '/' path).map (·.2)).getD path

lemma firstSegment_append (h : '/' ∉ a) : firstSegment (a ++ '/' :: b) = a := by
  rw [firstSegment, cutFirst_append h]
  rfl

lemma firstSegment_eq_self (h : '/' ∉ a) : firstSegment a = a := by
  rw [firstSegment, cutFirst_eq_none.2 h]
  rfl

lemma lastSegment_eq_self (h : '/' ∉ a) : lastSegment a = a := by
  rw [lastSegment, cutLast_eq_none.2 h]
  rfl

lemma lastSegment_append : lastSegment (a ++ '/' :: b) = lastSegment b := by
  rcases h : cutLast '/' b with _ | ⟨x, y⟩
  · have hb := cutLast_eq_none.1 h
    rw [lastSegment_eq_self hb, lastSegment, cutLast_append hb]
    rfl
  · obtain ⟨rfl, hy⟩ := cutLast_eq_some h
    have hcut : cutLast '/' (a ++ '/' :: (x ++ '/' :: y)) = some (a ++ '/' :: x, y) := by
      rw [← cutLast_append (a := a ++ '/' :: x) hy, List.append_assoc, List.cons_append]
    rw [lastSegment, lastSegment, hcut, h]
    rfl

lemma lastSegment_append_of_mem (h : '/' ∈ b) : lastSegment (a ++ b) = lastSegment b := by
  obtain ⟨x, y, rfl⟩ := List.append_of_mem h
  rw [← List.append_assoc, lastSegment_append, lastSegment_append]

lemma mem_lastSegment (hc : c ≠ '/') (h : '/' ∉ b) : c ∈ lastSegment (a ++ c :: b) := by
  have hmem : ∀ x : List Char, '/' ∉ x → c ∈ lastSegment (x ++ c :: b) := by
    intro x hx
    rw [lastSegment_eq_self (by simp [hx, Ne.symm hc, h])]
    simp
  rcases ha : cutLast '/' a with _ | ⟨x, y⟩
  · exact hmem a (cutLast_eq_none.1 ha)
  · obtain ⟨rfl, hy⟩ := cutLast_eq_some ha
    rw [List.append_assoc, List.cons_append, lastSegment_append]
    exact hmem y hy

lemma mem_of_mem_lastSegment (h : c ∈ lastSegment cs) : c ∈ cs := by
  rcases hc : cutLast '/' cs with _ | ⟨x, y⟩
  · rwa [lastSegment_eq_self (cutLast_eq_none.1 hc)] at h
  · rw [lastSegment, hc] at h
    obtain ⟨rfl, -⟩ := cutLast_eq_some hc
    exact List.mem_append_right _ (List.mem_cons_of_mem _ h)

/-! ### Trimming -/

lemma trimStartBy_sublist : (trimStartBy p cs).Sublist cs := List.dropWhile_sublist p

lemma trimEndBy_sublist : (trimEndBy p cs).Sublist cs := by
  rw [← List.reverse_sublist, trimEndBy, List.reverse_reverse]
  exact List.dropWhile_sublist p

lemma trimBy_sublist : (trimBy p cs).Sublist cs :=
  trimEndBy_sublist.trans trimStartBy_sublist

lemma trimEndBy_prefix : trimEndBy p cs <+: cs := by
  rw [← List.reverse_suffix, trimEndBy, List.reverse_reverse]
  exact List.dropWhile_suffix p

lemma trimEndBy_append (h : trimEndBy p a = a) : trimEndBy p (a ++ b) = a ++ trimEndBy p b := by
  induction b using List.reverseRecOn with
  | nil => simpa [trimEndBy] using h
  | append_singleton b c ih =>
    rw [← List.append_assoc, trimEndBy_concat, trimEndBy_concat]
    split
    · exact ih
    · exact List.append_assoc ..

lemma exists_trimEndBy (p : Char → Bool) (cs : List Char) :
    ∃ after, after.all p = true ∧ cs = trimEndBy p cs ++ after := by
  refine ⟨(cs.reverse.takeWhile p).reverse, ?_, ?_⟩
  · rw [List.all_reverse]
    exact List.all_takeWhile
  · rw [trimEndBy, ← List.reverse_append, List.takeWhile_append_dropWhile, List.reverse_reverse]

lemma exists_trimBy (p : Char → Bool) (cs : List Char) : ∃ before after,
    before.all p = true ∧ after.all p = true ∧ cs = before ++ trimBy p cs ++ after := by
  obtain ⟨after, hafter, hcs⟩ := exists_trimEndBy p (trimStartBy p cs)
  refine ⟨cs.takeWhile p, after, List.all_takeWhile, hafter, ?_⟩
  rw [trimBy, List.append_assoc, ← hcs, trimStartBy, List.takeWhile_append_dropWhile]

lemma trimStartBy_append (h : a.all p = false) (b : List Char) :
    trimStartBy p (a ++ b) = trimStartBy p a ++ b := by
  rw [trimStartBy, List.dropWhile_append, if_neg, ← trimStartBy]
  rw [List.isEmpty_iff, List.dropWhile_eq_nil_iff, ← List.all_eq_true, h]
  exact Bool.false_ne_true

lemma trimEndBy_of_all (h : cs.all p = true) : trimEndBy p cs = [] := by
  rw [trimEndBy, List.reverse_eq_nil_iff, List.dropWhile_eq_nil_iff]
  exact fun c hc => List.all_eq_true.1 h c (List.mem_reverse.1 hc)

lemma trimStartBy_eq_self (h : ∀ c, cs.head? = some c → p c = false) : trimStartBy p cs = cs := by
  cases cs with
  | nil => rfl
  | cons c cs => rw [trimStartBy, List.dropWhile_cons_of_neg (by simp [h c rfl])]

lemma trimEndBy_eq_self (h : ∀ c, cs.getLast? = some c → p c = false) : trimEndBy p cs = cs := by
  rw [List.getLast?_eq_head?_reverse] at h
  have := trimStartBy_eq_self h
  rw [trimStartBy] at this
  rw [trimEndBy, this, List.reverse_reverse]

lemma trimBy_eq_self (hh : ∀ c, cs.head? = some c → p c = false)
    (hl : ∀ c, cs.getLast? = some c → p c = false) : trimBy p cs = cs := by
  rw [trimBy, trimStartBy_eq_self hh, trimEndBy_eq_self hl]

lemma head?_dropWhile (h : (cs.dropWhile p).head? = some c) : p c = false := by
  have := List.head?_dropWhile_not p cs
  rw [h] at this
  simpa using this

lemma head?_trimBy (h : (trimBy p cs).head? = some c) : p c = false := by
  obtain ⟨rest, hrest⟩ : trimBy p cs <+: trimStartBy p cs := trimEndBy_prefix
  have hhead : (cs.dropWhile p).head? = some c := by
    rw [← trimStartBy, ← hrest, List.head?_append, h]
    rfl
  exact head?_dropWhile hhead

lemma getLast?_trimEndBy (h : (trimEndBy p cs).getLast? = some c) : p c = false := by
  rw [trimEndBy, List.getLast?_reverse] at h
  exact head?_dropWhile h

lemma getLast?_trimBy (h : (trimBy p cs).getLast? = some c) : p c = false := getLast?_trimEndBy h

lemma trimBy_trimBy : trimBy p (trimBy p cs) = trimBy p cs :=
  trimBy_eq_self (fun _ => head?_trimBy) fun _ => getLast?_trimBy

lemma trimBy_concat (h : p c = true) (cs : List Char) :
    trimBy p (cs ++ [c]) = trimBy p cs := by
  rw [trimBy, trimBy, trimStartBy, trimStartBy, List.dropWhile_append]
  split
  · rename_i hnil
    rw [List.isEmpty_iff.1 hnil, List.dropWhile_cons_of_pos h, List.dropWhile_nil]
  · rw [trimEndBy_concat, if_pos h]

lemma trimBy_append_of_all (h : b.all p) (cs : List Char) : trimBy p (cs ++ b) = trimBy p cs := by
  induction b using List.reverseRecOn with
  | nil => rw [List.append_nil]
  | append_singleton b c ih =>
    obtain ⟨hb, hc⟩ : b.all p = true ∧ p c = true := by simpa using h
    rw [← List.append_assoc, trimBy_concat hc, ih hb]

lemma trimBy_surrounded (ha : a.all p) (hb : b.all p) (cs : List Char) :
    trimBy p (a ++ cs ++ b) = trimBy p cs := by
  have hstart : trimStartBy p (a ++ (cs ++ b)) = trimStartBy p (cs ++ b) :=
    List.dropWhile_append_of_pos (List.all_eq_true.1 ha)
  rw [List.append_assoc, trimBy, hstart, ← trimBy, trimBy_append_of_all hb]

lemma trimBy_of_all (h : cs.all p) : trimBy p cs = [] := by
  have hstart : trimStartBy p cs = [] := List.dropWhile_eq_nil_iff.2 (List.all_eq_true.1 h)
  rw [trimBy, hstart]
  rfl

lemma trim_trim (s : String) : trim (trim s) = trim s := by
  rw [trim, trim, String.toList_ofList, trimBy_trimBy]

lemma trim_surrounded {before after : String} (hb : onlyBlanks before) (ha : onlyBlanks after)
    (s : String) : trim (before ++ s ++ after) = trim s := by
  rw [trim, trim, String.toList_append, String.toList_append, trimBy_surrounded hb ha]

lemma trim_of_onlyBlanks {s : String} (h : onlyBlanks s) : trim s = "" := by
  rw [trim, trimBy_of_all h]

end RegistrySync.Text
