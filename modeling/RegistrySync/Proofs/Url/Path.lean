import RegistrySync.Proofs.Text.Cut
import RegistrySync.Proofs.Text.Utf8
import RegistrySync.Proofs.Url.Percent
import RegistrySync.Url.Parse

/-!
What a text behind an authority stands for.

Reading it as path, query and fragment leaves characters out, turns backslashes into slashes, works
off dot segments and takes escapes for the bytes that they stand for. Each of these makes the path
lighter than the text. So the path stands for the text only if none of them happens.
-/

namespace RegistrySync.Url

open Text

variable {a b cs : List Char} {segments done done' : List (List Char)}

/-! ### Texts that are paths -/

/-- A text that is read as the path that it is. -/
structure IsLiteral (cs : List Char) : Prop where
  /-- Nothing is dropped, ends the path or is another spelling of a slash. -/
  marks : ∀ c ∈ ['\t', '\n', '\r', '?', '#', '\\'], c ∉ cs
  escapes : IsEscapeless cs
  /-- No segment means another one. -/
  dots : ∀ s ∈ [['.'], ['.', '.']], s ∉ pieces '/' cs

lemma rawBytes_injective (h : rawBytes a = rawBytes b) : a = b := by
  have hencode (cs : List Char) : Utf8.encode (String.ofList cs) = rawBytes cs := by
    rw [Utf8.encode, String.toList_ofList, rawBytes]
  have hdecode := congrArg Utf8.decode h
  rw [← hencode a, ← hencode b, Utf8.decode_encode, Utf8.decode_encode] at hdecode
  exact String.ofList_injective (Except.ok.inj hdecode)

lemma heft_rawBytes_cons (c : Char) (cs : List Char) :
    heft (rawBytes (c :: cs)) = heft (String.utf8EncodeChar c) + heft (rawBytes cs) :=
  heft_append ..

lemma heft_of_sublist (h : a.Sublist b) : a = b ∨ heft (rawBytes a) < heft (rawBytes b) := by
  induction h with
  | slnil => exact .inl rfl
  | @cons a b c _ ih =>
    right
    have hpos := heft_char_pos c
    have hle : heft (rawBytes a) ≤ heft (rawBytes b) := by
      rcases ih with rfl | hlt
      · exact Nat.le_refl _
      · exact Nat.le_of_lt hlt
    rw [heft_rawBytes_cons]
    exact Nat.lt_of_le_of_lt hle (Nat.lt_add_of_pos_left hpos)
  | @cons_cons a b c _ ih =>
    rcases ih with rfl | hlt
    · exact .inl rfl
    · right
      rw [heft_rawBytes_cons, heft_rawBytes_cons]
      exact Nat.add_lt_add_left hlt _

def slashed (cs : List Char) : List Char := cs.map fun c => if c = '\\' then '/' else c

lemma heft_slashed (cs : List Char) : '\\' ∉ cs ∧ slashed cs = cs ∨
    heft (rawBytes (slashed cs)) < heft (rawBytes cs) := by
  induction cs with
  | nil => exact .inl ⟨nofun, rfl⟩
  | cons c cs ih =>
    have hslash : heft (String.utf8EncodeChar '/') < heft (String.utf8EncodeChar '\\') := by decide
    by_cases hc : c = '\\'
    · right
      have hle : heft (rawBytes (slashed cs)) ≤ heft (rawBytes cs) := by
        rcases ih with ⟨-, heq⟩ | hlt
        · rw [heq]
        · exact Nat.le_of_lt hlt
      rw [hc, slashed, List.map_cons, if_pos rfl, heft_rawBytes_cons, heft_rawBytes_cons]
      exact Nat.add_lt_add_of_lt_of_le hslash hle
    · have hcons : slashed (c :: cs) = c :: slashed cs := by
        rw [slashed, List.map_cons, if_neg hc]
        rfl
      rw [hcons, heft_rawBytes_cons, heft_rawBytes_cons]
      rcases ih with ⟨hnot, heq⟩ | hlt
      · exact .inl ⟨by simp [hnot, Ne.symm hc], by rw [heq]⟩
      · exact .inr (Nat.add_lt_add_left hlt _)

/-! ### Dot segments -/

/-- What the segments of a path stand for, with their slashes. -/
def weight : List (List Char) → Nat
  | [] => 0
  | s :: segments => heft (unescape s) + 1 + weight segments

lemma weight_cons (s : List Char) (segments : List (List Char)) :
    weight (s :: segments) = heft (unescape s) + 1 + weight segments := rfl

lemma weight_append (a b : List (List Char)) : weight (a ++ b) = weight a + weight b := by
  induction a with
  | nil => exact (Nat.zero_add _).symm
  | cons s a ih => rw [List.cons_append, weight_cons, weight_cons, ih, Nat.add_assoc _ (weight a)]

lemma weight_reverse (segments : List (List Char)) :
    weight segments.reverse = weight segments := by
  induction segments with
  | nil => rfl
  | cons s segments ih =>
    rw [List.reverse_cons, weight_append, ih, weight_cons, weight_cons, Nat.add_comm]
    rfl

lemma unescape_slash (a b : List Char) :
    unescape (a ++ '/' :: b) = unescape a ++ 47 :: unescape b := by
  have hslash : unescape ('/' :: b) = 47 :: unescape b := unescape_cons nofun
  rw [unescape_append (by decide), hslash]

lemma heft_unescape_intercalate (h : segments ≠ []) :
    heft (unescape (['/'].intercalate segments)) + 1 = weight segments := by
  induction segments with
  | nil => exact absurd rfl h
  | cons s segments ih =>
    rcases segments with _ | ⟨t, segments⟩
    · rw [List.intercalate_singleton, weight_cons]
      rfl
    · have hone : heft [47] = 1 := rfl
      rw [List.intercalate_cons_cons, List.append_assoc, List.singleton_append, unescape_slash,
        heft_append, heft_cons, hone, weight_cons, ← ih (List.cons_ne_nil _ _)]
      omega

lemma weight_shorten_le (done : List (List Char)) : weight (shorten done) ≤ weight done := by
  rcases done with _ | ⟨s, done⟩
  · exact Nat.le_refl _
  · rw [shorten]
    split
    · exact Nat.le_refl _
    · rw [weight_cons]
      omega

lemma weight_end_lt {s : List Char} (hs : s ≠ []) (h : weight done' ≤ weight done) :
    weight ([] :: done').reverse < weight done + weight [s] := by
  have hpos := heft_pos (unescape_ne_nil hs)
  have hempty : heft (unescape []) = 0 := rfl
  rw [weight_reverse, weight_cons, weight_cons, hempty]
  omega

/-- No segment is a dot segment. -/
def IsDotless (segments : List (List Char)) : Prop :=
  ∀ s ∈ segments, isDot s = false ∧ isDoubleDot s = false

lemma settle_of_isDotless (done : List (List Char)) (h : IsDotless segments) :
    settle done segments = done.reverse ++ segments := by
  induction segments generalizing done with
  | nil => exact (List.append_nil _).symm
  | cons s rest ih =>
    obtain ⟨⟨hdot, hdouble⟩, hrest⟩ := List.forall_mem_cons.1 h
    rcases rest with _ | ⟨t, rest⟩
    · rw [settle, hdot, hdouble]
      exact List.reverse_cons
    · have hnext := ih (s :: done) hrest
      rw [settle, hdot, hdouble]
      · rw [List.reverse_cons, List.append_assoc] at hnext
        exact hnext
      · nofun

lemma isDotless_cons {s : List Char} (hdouble : ¬ isDoubleDot s = true) (hdot : ¬ isDot s = true)
    (h : IsDotless segments) : IsDotless (s :: segments) :=
  List.forall_mem_cons.2 ⟨⟨Bool.eq_false_iff.2 hdot, Bool.eq_false_iff.2 hdouble⟩, h⟩

lemma ne_nil_of_isDot {s : List Char} (h : isDoubleDot s = true ∨ isDot s = true) : s ≠ [] := by
  rintro rfl
  exact absurd h (by decide)

lemma settle_last_cases (done : List (List Char)) (s : List Char) : IsDotless [s] ∨
    weight (settle done [s]) < weight done + weight [s] := by
  rw [settle]
  by_cases hdouble : isDoubleDot s = true
  · rw [if_pos hdouble]
    exact .inr (weight_end_lt (ne_nil_of_isDot (.inl hdouble)) (weight_shorten_le done))
  · rw [if_neg hdouble]
    by_cases hdot : isDot s = true
    · rw [if_pos hdot]
      exact .inr (weight_end_lt (ne_nil_of_isDot (.inr hdot)) (Nat.le_refl _))
    · exact .inl (isDotless_cons hdouble hdot nofun)

lemma settle_cases (done segments : List (List Char)) : IsDotless segments ∨
    weight (settle done segments) < weight done + weight segments := by
  induction segments generalizing done with
  | nil => exact .inl nofun
  | cons s rest ih =>
    rcases rest with _ | ⟨t, rest⟩
    · exact settle_last_cases done s
    -- either way the rest does not get heavier
    have hle (done : List (List Char)) :
        weight (settle done (t :: rest)) ≤ weight done + weight (t :: rest) := by
      rcases ih done with hdotless | hlt
      · rw [settle_of_isDotless done hdotless, weight_append, weight_reverse]
      · exact Nat.le_of_lt hlt
    rw [settle, weight_cons s]
    · by_cases hdouble : isDoubleDot s = true
      · have hrest := hle (shorten done)
        have hshorten := weight_shorten_le done
        rw [if_pos hdouble]
        exact .inr (by omega)
      rw [if_neg hdouble]
      by_cases hdot : isDot s = true
      · have hrest := hle done
        rw [if_pos hdot]
        exact .inr (by omega)
      rw [if_neg hdot]
      rcases ih (s :: done) with hdotless | hlt
      · exact .inl (isDotless_cons hdouble hdot hdotless)
      · rw [weight_cons] at hlt
        exact .inr (by omega)
    · nofun

/-! Dot segments may be written with escapes, but they stand for dots. -/

lemma toLower_cases (c : Char) : c.toLower = c ∨ ∃ n < 91, 65 ≤ n ∧ c = Char.ofNat n := by
  by_cases h : c.val ≥ 'A'.val ∧ c.val ≤ 'Z'.val
  · exact .inr ⟨c.toNat, Nat.lt_succ_of_le h.2, h.1, (Char.ofNat_toNat c).symm⟩
  · exact .inl (dif_neg h)

lemma eq_of_toLower_eq {c d : Char} (h : c.toLower = d) (hd : d ∈ ['.', '%', '2']) : c = d := by
  have hletter : ∀ n < 91, 65 ≤ n → (Char.ofNat n).toLower ∉ ['.', '%', '2'] := by decide
  rcases toLower_cases c with hsame | ⟨n, hlt, hle, rfl⟩
  · exact hsame.symm.trans h
  · exact absurd (h ▸ hd) (hletter n hlt hle)

lemma hexValue?_of_toLower {c : Char} (h : c.toLower = 'e') : hexValue? c = some 14 := by
  have hletter : ∀ n < 91, 65 ≤ n → (Char.ofNat n).toLower = 'e' →
      hexValue? (Char.ofNat n) = some 14 := by decide
  rcases toLower_cases c with hsame | ⟨n, hlt, hle, rfl⟩
  · rw [← hsame, h]
    decide
  · exact hletter n hlt hle h

/-- A dot, or an escape for one. -/
def IsPoint (cs : List Char) : Prop :=
  cs.map Char.toLower = ['.'] ∨ cs.map Char.toLower = ['%', '2', 'e']

lemma unescape_point (h : IsPoint a) (b : List Char) : unescape (a ++ b) = 46 :: unescape b := by
  rcases h with h | h
  · obtain ⟨c, rest, rfl, hc, hrest⟩ := List.map_eq_cons_iff.1 h
    obtain rfl := List.map_eq_nil_iff.1 hrest
    rw [eq_of_toLower_eq hc (by decide)]
    exact unescape_cons nofun
  · obtain ⟨c, rest, rfl, hc, hrest⟩ := List.map_eq_cons_iff.1 h
    obtain ⟨x, rest, rfl, hx, hrest⟩ := List.map_eq_cons_iff.1 hrest
    obtain ⟨y, rest, rfl, hy, hrest⟩ := List.map_eq_cons_iff.1 hrest
    obtain rfl := List.map_eq_nil_iff.1 hrest
    have htwo : hexValue? '2' = some 2 := by decide
    rw [eq_of_toLower_eq hc (by decide), eq_of_toLower_eq hx (by decide)]
    exact unescape_hex htwo (hexValue?_of_toLower hy) b

lemma unescape_of_isDot (h : isDot a = true) : unescape a = [46] := by
  have hpoint : IsPoint a := by
    simpa [isDot, IsPoint, ← String.toList_inj] using h
  have := unescape_point hpoint []
  rwa [List.append_nil] at this

lemma unescape_of_isDoubleDot (h : isDoubleDot a = true) : unescape a = [46, 46] := by
  obtain ⟨x, y, rfl, hx, hy⟩ : ∃ x y, a = x ++ y ∧ IsPoint x ∧ IsPoint y := by
    have hsplit (u v : List Char) (h : a.map Char.toLower = u ++ v)
        (hu : u = ['.'] ∨ u = ['%', '2', 'e']) (hv : v = ['.'] ∨ v = ['%', '2', 'e']) :
        ∃ x y, a = x ++ y ∧ IsPoint x ∧ IsPoint y := by
      obtain ⟨x, y, rfl, rfl, rfl⟩ := List.map_eq_append_iff.1 h
      exact ⟨x, y, rfl, hu, hv⟩
    simp only [isDoubleDot, List.contains_iff_mem, List.mem_cons, List.not_mem_nil, or_false,
      ← String.toList_inj, String.toList_ofList] at h
    rcases h with h | h | h | h
    · exact hsplit ['.'] ['.'] h (.inl rfl) (.inl rfl)
    · exact hsplit ['.'] ['%', '2', 'e'] h (.inl rfl) (.inr rfl)
    · exact hsplit ['%', '2', 'e'] ['.'] h (.inr rfl) (.inl rfl)
    · exact hsplit ['%', '2', 'e'] ['%', '2', 'e'] h (.inr rfl) (.inr rfl)
  have := unescape_point hy []
  rw [List.append_nil] at this
  rw [unescape_point hx, this]
  rfl

/-! ### Paths -/

lemma inPath_kept (c : Char) (h : c = '%' ∨ (hexValue? c).isSome) : inPath c = false := by
  have hkept : ∀ n < 103, (hexValue? (Char.ofNat n)).isSome → inPath (Char.ofNat n) = false := by
    decide +kernel
  rcases h with rfl | h
  · decide
  · have hlt := lt_of_hexValue? h
    rw [← Char.ofNat_toNat c] at h ⊢
    exact hkept c.toNat hlt h

lemma escape_intercalate (segments : List (List Char)) :
    escape inPath (['/'].intercalate segments) =
      ['/'].intercalate (segments.map (escape inPath)) := by
  induction segments with
  | nil => rfl
  | cons s segments ih =>
    rcases segments with _ | ⟨t, segments⟩
    · simp only [List.map_cons, List.map_nil, List.intercalate_singleton]
    · have hslash : escape inPath ['/'] = ['/'] := by decide
      rw [List.intercalate_cons_cons, escape_append, escape_append, ih, hslash]
      simp only [List.map_cons, List.intercalate_cons_cons]

/-- The segments of a text as they are written in a path. -/
def written (cs : List Char) : List (List Char) := (pieces '/' cs).map (escape inPath)

def pathChars (path : List String) : List Char := (joinWith "/" path).toList

lemma pathChars_map (segments : List (List Char)) :
    pathChars (segments.map String.ofList) = ['/'].intercalate segments :=
  toList_joinWith "/" segments

lemma pathChars_singleton (s : String) : pathChars [s] = s.toList := by
  rw [pathChars, joinWith, String.toList_intercalate]
  exact List.intercalate_singleton

lemma pathChars_cons (s t : String) (rest : List String) :
    pathChars (s :: t :: rest) = s.toList ++ '/' :: pathChars (t :: rest) := by
  simp only [pathChars, joinWith, String.toList_intercalate, List.map_cons,
    List.intercalate_cons_cons, List.append_assoc]
  rfl

lemma pathChars_concat (s : String) (rest : List String) (last : String) :
    pathChars (s :: (rest ++ [last])) = pathChars (s :: rest) ++ '/' :: last.toList := by
  induction rest generalizing s with
  | nil => rw [List.nil_append, pathChars_cons, pathChars_singleton, pathChars_singleton]
  | cons t rest ih =>
    rw [List.cons_append, pathChars_cons, ih, pathChars_cons, List.append_assoc]
    rfl

lemma unescape_written (cs : List Char) :
    unescape (['/'].intercalate (written cs)) = unescape cs := by
  rw [written, ← escape_intercalate, intercalate_pieces, unescape_escape inPath_kept]

lemma settle_ne_nil (done segments : List (List Char)) (h : segments ≠ []) :
    settle done segments ≠ [] := by
  induction segments generalizing done with
  | nil => exact absurd rfl h
  | cons s rest ih =>
    rcases rest with _ | ⟨t, rest⟩
    · rw [settle]
      split_ifs <;> simp
    · have hrest := List.cons_ne_nil t rest
      rw [settle]
      · split_ifs
        · exact ih _ hrest
        · exact ih _ hrest
        · exact ih _ hrest
      · exact fun h => absurd h hrest

lemma readPath_eq (cs : List Char) :
    readPath cs = (settle [] (written (slashed cs))).map String.ofList := rfl

lemma written_ne_nil (cs : List Char) : written cs ≠ [] :=
  mt List.map_eq_nil_iff.1 (pieces_ne_nil '/' cs)

lemma isDotless_written (hescapes : IsEscapeless cs)
    (hdots : ∀ s ∈ [['.'], ['.', '.']], s ∉ pieces '/' cs) : IsDotless (written cs) := by
  intro s hs
  obtain ⟨piece, hpiece, rfl⟩ := List.mem_map.1 hs
  have hsame : unescape (escape inPath piece) = rawBytes piece := by
    rw [unescape_escape inPath_kept]
    exact unescape_of_isEscapeless fun x y h =>
      hescapes x y (h.trans (infix_of_mem_pieces hpiece))
  have hdot : rawBytes ['.'] = [46] := by decide
  have hdouble : rawBytes ['.', '.'] = [46, 46] := by decide
  refine ⟨Bool.eq_false_iff.2 fun h => ?_, Bool.eq_false_iff.2 fun h => ?_⟩
  · have heq := rawBytes_injective ((hsame.symm.trans (unescape_of_isDot h)).trans hdot.symm)
    exact hdots _ (by simp) (heq ▸ hpiece)
  · have heq := rawBytes_injective
      ((hsame.symm.trans (unescape_of_isDoubleDot h)).trans hdouble.symm)
    exact hdots _ (by simp) (heq ▸ hpiece)

/-- A path stands for the text that it was read from, or for something lighter. -/
lemma readPath_cases (cs : List Char) :
    '\\' ∉ cs ∧ IsEscapeless cs ∧ (∀ s ∈ [['.'], ['.', '.']], s ∉ pieces '/' cs) ∧
        unescape (pathChars (readPath cs)) = rawBytes cs ∨
      heft (unescape (pathChars (readPath cs))) < heft (rawBytes cs) := by
  have hslashed : heft (rawBytes (slashed cs)) ≤ heft (rawBytes cs) := by
    rcases heft_slashed cs with ⟨-, heq⟩ | hlt
    · rw [heq]
    · exact Nat.le_of_lt hlt
  have hunescape := heft_unescape_le (slashed cs)
  rw [readPath_eq, pathChars_map]
  rcases settle_cases [] (written (slashed cs)) with hdotless | hlt
  · -- no segment is dropped, so only an escape or a backslash can make it lighter
    rw [settle_of_isDotless [] hdotless, List.reverse_nil, List.nil_append, unescape_written]
    rcases unescape_cases (slashed cs) with ⟨hescapes, hbytes⟩ | hlt
    · rcases heft_slashed cs with ⟨hback, hsame⟩ | hlt
      · rw [hsame] at hdotless hescapes hbytes ⊢
        have hdotted : ∀ s ∈ [['.'], ['.', '.']],
            ¬ (isDot (escape inPath s) = false ∧ isDoubleDot (escape inPath s) = false) := by decide
        exact .inl ⟨hback, hescapes,
          fun s hs hmem => hdotted s hs (hdotless _ (List.mem_map_of_mem hmem)), hbytes⟩
      · rw [hbytes]
        exact .inr hlt
    · exact .inr (Nat.lt_of_lt_of_le hlt hslashed)
  · right
    have hnew := heft_unescape_intercalate (settle_ne_nil [] _ (written_ne_nil (slashed cs)))
    have hold := heft_unescape_intercalate (written_ne_nil (slashed cs))
    have hnil : weight [] = 0 := rfl
    rw [unescape_written] at hold
    omega

lemma IsLiteral.readPath_eq (h : IsLiteral cs) :
    readPath cs = (written cs).map String.ofList := by
  have hback : '\\' ∉ cs := h.marks _ (by decide)
  have hslashed : slashed cs = cs :=
    (List.map_congr_left fun c hc => if_neg (ne_of_mem_of_not_mem hc hback)).trans (List.map_id _)
  rw [Url.readPath_eq, hslashed, settle_of_isDotless [] (isDotless_written h.escapes h.dots)]
  rfl

instance : Decidable (IsLiteral cs) :=
  decidable_of_iff ((['\t', '\n', '\r', '?', '#', '\\'].all (· ∉ cs)) = true ∧
      unescape cs = rawBytes cs ∧ ∀ s ∈ [['.'], ['.', '.']], s ∉ pieces '/' cs) <| by
    simp only [List.all_eq_true, decide_eq_true_eq]
    exact ⟨fun h => ⟨h.1, isEscapeless_iff.2 h.2.1, h.2.2⟩,
      fun h => ⟨h.marks, isEscapeless_iff.1 h.escapes, h.dots⟩⟩

lemma isEscapeless_append : IsEscapeless (a ++ '/' :: b) ↔ IsEscapeless a ∧ IsEscapeless b := by
  refine ⟨fun h => ⟨fun x y hxy => h x y ?_, fun x y hxy => h x y ?_⟩, fun ⟨ha, hb⟩ => ?_⟩
  · exact hxy.trans (List.prefix_append ..).isInfix
  · exact hxy.trans ((List.suffix_cons '/' b).trans (List.suffix_append a _)).isInfix
  · rw [isEscapeless_iff] at ha hb ⊢
    have hslash : rawBytes (a ++ '/' :: b) = rawBytes a ++ 47 :: rawBytes b := List.flatMap_append
    rw [unescape_slash, ha, hb, hslash]

lemma isLiteral_append : IsLiteral (a ++ '/' :: b) ↔ IsLiteral a ∧ IsLiteral b := by
  have hmarks (c : Char) (hc : c ∈ ['\t', '\n', '\r', '?', '#', '\\']) :
      c ∉ a ++ '/' :: b ↔ c ∉ a ∧ c ∉ b := by
    have hne : c ≠ '/' := by
      rintro rfl
      exact absurd hc (by decide)
    rw [List.mem_append, List.mem_cons, not_or, not_or]
    exact ⟨fun h => ⟨h.1, h.2.2⟩, fun h => ⟨h.1, hne, h.2⟩⟩
  have hdots (s : List Char) :
      s ∉ pieces '/' (a ++ '/' :: b) ↔ s ∉ pieces '/' a ∧ s ∉ pieces '/' b := by
    rw [pieces_append, List.mem_append, not_or]
  refine ⟨fun h => ?_, fun ⟨ha, hb⟩ => ?_⟩
  · obtain ⟨hescapes, hescapes'⟩ := isEscapeless_append.1 h.escapes
    exact ⟨⟨fun c hc => ((hmarks c hc).1 (h.marks c hc)).1, hescapes,
        fun s hs => ((hdots s).1 (h.dots s hs)).1⟩,
      ⟨fun c hc => ((hmarks c hc).1 (h.marks c hc)).2, hescapes',
        fun s hs => ((hdots s).1 (h.dots s hs)).2⟩⟩
  · exact ⟨fun c hc => (hmarks c hc).2 ⟨ha.marks c hc, hb.marks c hc⟩,
      isEscapeless_append.2 ⟨ha.escapes, hb.escapes⟩,
      fun s hs => (hdots s).2 ⟨ha.dots s hs, hb.dots s hs⟩⟩

lemma written_append (a b : List Char) : written (a ++ '/' :: b) = written a ++ written b := by
  rw [written, pieces_append, List.map_append, written, written]

/-! ### Behind the authority -/

/-- What is left of a text when line breaks and tabs are dropped. -/
def undropped (cs : List Char) : List Char := cs.filter fun c => c ∉ ['\t', '\n', '\r']

lemma undropped_append (a b : List Char) : undropped (a ++ b) = undropped a ++ undropped b :=
  List.filter_append ..

def beforeMarks (cs : List Char) : List Char := (cs.takeWhile (· != '#')).takeWhile (· != '?')

lemma readTail_path (u : Url) (cs : List Char) :
    (readTail u ('/' :: cs)).path = readPath (beforeMarks cs) := by
  have hslash (mark : Char) (hmark : '/' ≠ mark) (cs : List Char) :
      ('/' :: cs).takeWhile (· != mark) = '/' :: cs.takeWhile (· != mark) :=
    List.takeWhile_cons_of_pos (bne_iff_ne.2 hmark)
  have hhash := cutFirst_cases '#' ('/' :: cs)
  have hquery := cutFirst_cases '?' ('/' :: cs.takeWhile (· != '#'))
  rw [hslash '#' (by decide)] at hhash
  rw [hslash '?' (by decide)] at hquery
  rw [readTail, beforeMarks]
  rcases hhash with ⟨hnone, hall⟩ | ⟨rest, hsome⟩
  · rw [hnone, ← hall]
    dsimp only
    rcases hquery with ⟨hnone, hall⟩ | ⟨rest, hsome⟩
    · rw [hnone, (List.cons.inj hall).2]
      rfl
    · rw [hsome]
      rfl
  · rw [hsome]
    dsimp only
    rcases hquery with ⟨hnone, hall⟩ | ⟨rest, hsome⟩
    · rw [hnone, (List.cons.inj hall).2]
      rfl
    · rw [hsome]
      rfl

lemma mem_beforeMarks {c : Char} (h : c ∈ beforeMarks (undropped cs)) :
    c ∉ ['\t', '\n', '\r', '?', '#'] := by
  have hquery := List.mem_takeWhile_imp (p := (· != '?')) h
  have hrest := List.takeWhile_subset _ h
  have hhash := List.mem_takeWhile_imp (p := (· != '#')) hrest
  have hdropped := of_decide_eq_true (List.mem_filter.1 (List.takeWhile_subset _ hrest)).2
  simp only [List.mem_cons, List.not_mem_nil, or_false, not_or] at hdropped ⊢
  exact ⟨hdropped.1, hdropped.2.1, hdropped.2.2, bne_iff_ne.1 hquery, bne_iff_ne.1 hhash⟩

lemma readTail_unmarked (u : Url) (hhash : '#' ∉ cs) (hquery : '?' ∉ cs) :
    readTail u ('/' :: cs) = { u with path := readPath cs, query := none, fragment := none } := by
  have hnone (mark : Char) (hmark : mark ≠ '/') (h : mark ∉ cs) :
      cutFirst mark ('/' :: cs) = none :=
    cutFirst_eq_none.2 fun hmem => (List.mem_cons.1 hmem).elim hmark h
  rw [readTail, hnone '#' (by decide) hhash]
  dsimp only
  rw [hnone '?' (by decide) hquery]
  rfl

lemma readTail_cases (u : Url) (cs : List Char) : IsLiteral cs ∨
    heft (unescape (pathChars (readTail u ('/' :: undropped cs)).path)) < heft (rawBytes cs) := by
  have hsublist : (beforeMarks (undropped cs)).Sublist cs :=
    (List.takeWhile_sublist _).trans ((List.takeWhile_sublist _).trans List.filter_sublist)
  rw [readTail_path]
  rcases readPath_cases (beforeMarks (undropped cs)) with ⟨hback, hescapes, hdots, hbytes⟩ | hlt
  · rcases heft_of_sublist hsublist with hsame | hlt
    · left
      rw [hsame] at hback hescapes hdots
      refine ⟨fun c hc hmem => ?_, hescapes, hdots⟩
      have hsplit : c ∈ ['\t', '\n', '\r', '?', '#'] ++ ['\\'] := hc
      rcases List.mem_append.1 hsplit with hc | hc
      · exact mem_beforeMarks (hsame.symm ▸ hmem) hc
      · exact hback (List.mem_singleton.1 hc ▸ hmem)
    · rw [hbytes]
      exact .inr hlt
  · right
    rcases heft_of_sublist hsublist with hsame | hless
    · rwa [hsame] at hlt ⊢
    · exact Nat.lt_trans hlt hless

lemma IsLiteral.readTail_eq (h : IsLiteral cs) (u : Url) : readTail u ('/' :: undropped cs) =
    { u with path := (written cs).map String.ofList, query := none, fragment := none } := by
  have hkept : undropped cs = cs := by
    refine List.filter_eq_self.2 fun c hc => decide_eq_true fun hmark => ?_
    exact h.marks c (List.mem_append_left ['?', '#', '\\'] hmark) hc
  rw [hkept, readTail_unmarked u (h.marks _ (by decide)) (h.marks _ (by decide)), h.readPath_eq]

end RegistrySync.Url
