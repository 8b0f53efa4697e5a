import Mathlib.Tactic.Lemma
import Mathlib.Tactic.SplitIfs
import RegistrySync.Url.Percent

/-!
What a text with escapes stands for.

Escaping characters does not change the bytes that a text stands for. A text stands for its own
bytes exactly if nothing in it looks like an escape: an escape is longer than the byte it stands
for.
-/

namespace RegistrySync.Url

open Text

variable {p : Char → Bool} {c x y : Char} {m n : Nat} {a b cs : List Char}

/-! ### Reading escapes -/

lemma lt_of_hexValue? (h : (hexValue? c).isSome) : c.toNat < 103 := by
  simp only [hexValue?, Char.le_def, UInt32.le_iff_toNat_le, Char.toNat_val] at h
  split_ifs at h with h1 h2 h3
  · exact Nat.lt_of_le_of_lt h1.2 (by decide)
  · exact Nat.lt_of_le_of_lt h2.2 (by decide)
  · exact Nat.lt_of_le_of_lt h3.2 (by decide)
  · cases h

def StartsHex (cs : List Char) : Prop :=
  ∃ x y rest, cs = x :: y :: rest ∧ (hexValue? x).isSome ∧ (hexValue? y).isSome

lemma unescape_hex (hx : hexValue? x = some m) (hy : hexValue? y = some n) (cs : List Char) :
    unescape ('%' :: x :: y :: cs) = UInt8.ofNat (m * 16 + n) :: unescape cs := by
  rw [unescape]
  simp only [hx, hy]

lemma unescape_cons (h : c = '%' → ¬ StartsHex cs) :
    unescape (c :: cs) = String.utf8EncodeChar c ++ unescape cs := by
  by_cases hc : ∃ x y rest, c = '%' ∧ cs = x :: y :: rest
  · obtain ⟨x, y, rest, rfl, rfl⟩ := hc
    have hpercent : String.utf8EncodeChar '%' = [37] := by decide
    rw [unescape, hpercent]
    rcases hx : hexValue? x with _ | m
    · rfl
    · rcases hy : hexValue? y with _ | n
      · rfl
      · exact absurd ⟨x, y, rest, rfl, by simp [hx], by simp [hy]⟩ (h rfl)
  · rw [unescape]
    rintro x y rest rfl rfl
    exact hc ⟨x, y, rest, rfl, rfl⟩

lemma unescape_percentByte (b : UInt8) (cs : List Char) :
    unescape (percentByte b ++ cs) = b :: unescape cs := by
  have hdigit : ∀ n : Fin 16, hexValue? (upperHex n) = some n.val := by decide +kernel
  have hlt := b.toNat_lt
  have hval : b.toNat / 16 * 16 + b.toNat % 16 = b.toNat := Nat.div_add_mod' ..
  have hread := unescape_hex (hdigit ⟨b.toNat / 16, by omega⟩) (hdigit ⟨b.toNat % 16, by omega⟩) cs
  rw [hval, UInt8.ofNat_toNat] at hread
  exact hread

lemma unescape_percentBytes (bytes : List UInt8) (cs : List Char) :
    unescape (bytes.flatMap percentByte ++ cs) = bytes ++ unescape cs := by
  induction bytes with
  | nil => rfl
  | cons b bytes ih => rw [List.flatMap_cons, List.append_assoc, unescape_percentByte, ih,
      List.cons_append]

/-- A text is read escape by escape and character by character. -/
lemma escapes_induction {P : List Char → Prop} (nil : P [])
    (escape : ∀ x y m n cs, hexValue? x = some m → hexValue? y = some n → P cs →
      P ('%' :: x :: y :: cs))
    (char : ∀ c cs, (c = '%' → ¬ StartsHex cs) → P cs → P (c :: cs)) (cs : List Char) : P cs := by
  induction h : cs.length using Nat.strongRecOn generalizing cs with
  | ind k ih =>
    subst h
    rcases cs with _ | ⟨c, cs⟩
    · exact nil
    · by_cases hc : c = '%' ∧ StartsHex cs
      · obtain ⟨rfl, x, y, rest, rfl, hx, hy⟩ := hc
        obtain ⟨m, hm⟩ := Option.isSome_iff_exists.1 hx
        obtain ⟨n, hn⟩ := Option.isSome_iff_exists.1 hy
        exact escape x y m n rest hm hn (ih _ (by simp only [List.length_cons]; omega) rest rfl)
      · exact char c cs (fun hp hs => hc ⟨hp, hs⟩) (ih _ (Nat.lt_succ_self _) cs rfl)

lemma startsHex_of_append (hc : hexValue? c = none) (h : StartsHex (a ++ c :: b)) :
    StartsHex a := by
  obtain ⟨x, y, rest, heq, hx, hy⟩ := h
  rcases a with _ | ⟨a₁, _ | ⟨a₂, a⟩⟩
  · obtain ⟨rfl, -⟩ := List.cons.inj heq
    rw [hc] at hx
    cases hx
  · obtain ⟨rfl, -⟩ := List.cons.inj (List.cons.inj heq).2
    rw [hc] at hy
    cases hy
  · obtain ⟨rfl, htail⟩ := List.cons.inj heq
    obtain ⟨rfl, -⟩ := List.cons.inj htail
    exact ⟨_, _, a, rfl, hx, hy⟩

lemma unescape_append (hc : hexValue? c = none) (a b : List Char) :
    unescape (a ++ c :: b) = unescape a ++ unescape (c :: b) := by
  induction a using escapes_induction with
  | nil => rfl
  | escape x y m n cs hx hy ih =>
    rw [List.cons_append, List.cons_append, List.cons_append, unescape_hex hx hy,
      unescape_hex hx hy, ih, List.cons_append]
  | char d cs hd ih =>
    rw [List.cons_append, unescape_cons fun h hs => hd h (startsHex_of_append hc hs),
      unescape_cons hd, ih, List.append_assoc]

lemma unescape_ne_nil (h : cs ≠ []) : unescape cs ≠ [] := by
  induction cs using escapes_induction with
  | nil => exact absurd rfl h
  | escape x y m n cs hx hy _ =>
    rw [unescape_hex hx hy]
    nofun
  | char c cs hc _ =>
    rw [unescape_cons hc]
    exact fun hnil => String.utf8EncodeChar_ne_nil (List.append_eq_nil_iff.1 hnil).1

/-! ### Escaping -/

lemma escape_cons (p : Char → Bool) (c : Char) (cs : List Char) : escape p (c :: cs) =
    (if p c then (String.utf8EncodeChar c).flatMap percentByte else [c]) ++ escape p cs := rfl

lemma escape_append (p : Char → Bool) (a b : List Char) :
    escape p (a ++ b) = escape p a ++ escape p b := List.flatMap_append

lemma escape_eq_self (h : ∀ c ∈ cs, p c = false) : escape p cs = cs := by
  induction cs with
  | nil => rfl
  | cons c cs ih =>
    obtain ⟨hc, hcs⟩ := List.forall_mem_cons.1 h
    rw [escape_cons, hc, ih hcs]
    rfl

lemma escape_cons_eq (h : p c = true) (cs : List Char) :
    ∃ rest, escape p (c :: cs) = '%' :: rest := by
  rw [escape_cons, if_pos h]
  rcases hb : String.utf8EncodeChar c with _ | ⟨b, bytes⟩
  · exact absurd hb String.utf8EncodeChar_ne_nil
  · exact ⟨_, rfl⟩

lemma startsHex_of_escape (h : StartsHex (escape p cs)) : StartsHex cs := by
  obtain ⟨x, y, rest, heq, hx, hy⟩ := h
  have hpercent : hexValue? '%' = none := by decide
  rcases cs with _ | ⟨c, cs⟩
  · cases heq
  · by_cases hc : p c = true
    · obtain ⟨rest', hrest⟩ := escape_cons_eq hc cs
      obtain ⟨rfl, -⟩ := List.cons.inj (hrest.symm.trans heq)
      rw [hpercent] at hx
      cases hx
    · rw [escape_cons, if_neg hc] at heq
      obtain ⟨rfl, htail⟩ := List.cons.inj heq
      rcases cs with _ | ⟨d, cs⟩
      · cases htail
      · by_cases hd : p d = true
        · obtain ⟨rest', hrest⟩ := escape_cons_eq hd cs
          obtain ⟨rfl, -⟩ := List.cons.inj (hrest.symm.trans htail)
          rw [hpercent] at hy
          cases hy
        · replace htail : escape p (d :: cs) = y :: rest := htail
          rw [escape_cons, if_neg hd] at htail
          obtain ⟨rfl, -⟩ := List.cons.inj htail
          exact ⟨_, _, cs, rfl, hx, hy⟩

lemma unescape_escape (hp : ∀ c, c = '%' ∨ (hexValue? c).isSome → p c = false) (cs : List Char) :
    unescape (escape p cs) = unescape cs := by
  induction cs using escapes_induction with
  | nil => rfl
  | escape x y m n cs hx hy ih =>
    rw [escape_cons, hp '%' (.inl rfl), escape_cons, hp x (.inr (by simp [hx])), escape_cons,
      hp y (.inr (by simp [hy]))]
    exact (unescape_hex hx hy _).trans (ih ▸ (unescape_hex hx hy cs).symm)
  | char c cs hc ih =>
    rw [escape_cons, unescape_cons hc]
    split
    · rw [unescape_percentBytes, ih]
    · rw [List.singleton_append, unescape_cons fun h hs => hc h (startsHex_of_escape hs), ih]

/-! ### Texts without escapes -/

/-- Nothing looks like an escape. -/
def IsEscapeless (cs : List Char) : Prop :=
  ∀ x y, ['%', x, y] <:+: cs → hexValue? x = none ∨ hexValue? y = none

/-- The number of bytes, where a backslash counts twice. Whatever is left out of a text, and
whatever stands for less in it, makes it lighter. -/
def heft (bytes : List UInt8) : Nat := bytes.length + bytes.count 92

lemma heft_append (a b : List UInt8) : heft (a ++ b) = heft a + heft b := by
  simp only [heft, List.length_append, List.count_append]
  omega

lemma heft_cons (b : UInt8) (bytes : List UInt8) : heft (b :: bytes) = heft [b] + heft bytes :=
  heft_append [b] bytes

lemma heft_pos {bytes : List UInt8} (h : bytes ≠ []) : 0 < heft bytes := by
  have := List.length_pos_iff.2 h
  rw [heft]
  omega

lemma heft_singleton_le (b : UInt8) : heft [b] ≤ 2 := by
  simp only [heft, List.length_singleton, List.count_singleton]
  split <;> omega

lemma heft_char_pos (c : Char) : 0 < heft (String.utf8EncodeChar c) :=
  heft_pos String.utf8EncodeChar_ne_nil

def rawBytes (cs : List Char) : List UInt8 := cs.flatMap String.utf8EncodeChar

lemma isEscapeless_cons (hc : c = '%' → ¬ StartsHex cs) (h : IsEscapeless cs) :
    IsEscapeless (c :: cs) := by
  rintro x y hpart
  rcases List.infix_cons_iff.1 hpart with ⟨rest, hrest⟩ | hpart
  · obtain ⟨rfl, rfl⟩ := List.cons.inj hrest
    have hnot := hc rfl
    rcases hx : hexValue? x with _ | m
    · exact .inl rfl
    · rcases hy : hexValue? y with _ | n
      · exact .inr rfl
      · exact absurd ⟨x, y, rest, rfl, by simp [hx], by simp [hy]⟩ hnot
  · exact h x y hpart

lemma unescape_of_isEscapeless (h : IsEscapeless cs) : unescape cs = rawBytes cs := by
  induction cs using escapes_induction with
  | nil => rfl
  | escape x y m n cs hx hy _ =>
    rcases h x y ⟨[], cs, rfl⟩ with hnone | hnone
    · cases hnone.symm.trans hx
    · cases hnone.symm.trans hy
  | char c cs hc ih =>
    rw [unescape_cons hc, ih fun x y hpart => h x y (hpart.trans (List.suffix_cons c cs).isInfix)]
    rfl

lemma unescape_cases (cs : List Char) : IsEscapeless cs ∧ unescape cs = rawBytes cs ∨
    heft (unescape cs) < heft (rawBytes cs) := by
  induction cs using escapes_induction with
  | nil => exact .inl ⟨fun x y h => (nomatch List.infix_nil.1 h), rfl⟩
  | escape x y m n cs hx hy ih =>
    right
    -- three characters give way to one byte
    have hle : heft (unescape cs) ≤ heft (rawBytes cs) := by
      rcases ih with ⟨-, heq⟩ | hlt
      · exact Nat.le_of_eq (congrArg heft heq)
      · exact Nat.le_of_lt hlt
    have hx := heft_char_pos x
    have hy := heft_char_pos y
    have hpercent := heft_char_pos '%'
    have hbyte := heft_singleton_le (UInt8.ofNat (m * 16 + n))
    rw [unescape_hex ‹_› ‹_›, heft_cons]
    simp only [rawBytes, List.flatMap_cons, heft_append] at hle ⊢
    omega
  | char c cs hc ih =>
    rw [unescape_cons hc]
    rcases ih with ⟨hescapeless, heq⟩ | hlt
    · exact .inl ⟨isEscapeless_cons hc hescapeless, by rw [heq]; rfl⟩
    · right
      have hsplit : rawBytes (c :: cs) = String.utf8EncodeChar c ++ rawBytes cs := rfl
      rw [hsplit, heft_append, heft_append]
      omega

lemma isEscapeless_iff : IsEscapeless cs ↔ unescape cs = rawBytes cs := by
  refine ⟨unescape_of_isEscapeless, fun heq => ?_⟩
  rcases unescape_cases cs with ⟨hescapes, -⟩ | hlt
  · exact hescapes
  · exact absurd hlt (heq ▸ Nat.lt_irrefl _)

lemma heft_unescape_le (cs : List Char) : heft (unescape cs) ≤ heft (rawBytes cs) := by
  rcases unescape_cases cs with ⟨-, heq⟩ | hlt
  · exact Nat.le_of_eq (congrArg heft heq)
  · exact Nat.le_of_lt hlt


end RegistrySync.Url
