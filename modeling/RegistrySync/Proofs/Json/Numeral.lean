import RegistrySync.Json.Numeral
import RegistrySync.Proofs.Text.Utf8

/-!
Whole numbers are read back.

A whole number is written in its decimal digits, without a zero in front of them. The numeral that
is read ends at the first byte that a numeral does not go on with.
-/

namespace RegistrySync.Json

open Text

variable {n : Nat} {x : UInt8} {bs rest : List UInt8}

/-! ### Digits -/

/-- The digits that a number is written in. Only zero starts with a zero. -/
structure IsDecimal (n : Nat) (bs : List UInt8) : Prop where
  digits : ∀ b ∈ bs, isDigit b = true
  value : Numeral.natural (bs.map digit) = n
  lead : ∃ b more, bs = b :: more ∧ (b = 48 → n = 0 ∧ more = [])

lemma isDigit_last : ∀ d < 10, isDigit (UInt8.ofNat (48 + d)) = true ∧
    digit (UInt8.ofNat (48 + d)) = d ∧
    String.utf8EncodeChar (Nat.digitChar d) = [UInt8.ofNat (48 + d)] ∧
    (UInt8.ofNat (48 + d) = 48 → d = 0) := by
  decide

lemma natural_concat (ds : List Nat) (d : Nat) :
    Numeral.natural (ds ++ [d]) = Numeral.natural ds * 10 + d := by
  rw [Numeral.natural, List.foldl_append]
  rfl

lemma IsDecimal.concat (h : IsDecimal n bs) (hn : 0 < n) {d : Nat} (hd : d < 10) :
    IsDecimal (n * 10 + d) (bs ++ [UInt8.ofNat (48 + d)]) := by
  obtain ⟨hdigit, hvalue, -, -⟩ := isDigit_last d hd
  obtain ⟨b, more, rfl, hlead⟩ := h.lead
  refine ⟨?_, ?_, b, more ++ [UInt8.ofNat (48 + d)], rfl, fun hb => ?_⟩
  · intro x hx
    rcases List.mem_append.1 hx with hx | hx
    · exact h.digits x hx
    · rwa [List.mem_singleton.1 hx]
  · rw [List.map_append, List.map_singleton, hvalue, natural_concat, h.value]
  · exact absurd (hlead hb).1 (Nat.ne_of_gt hn)

lemma isDecimal_toDigits (n : Nat) :
    IsDecimal n ((Nat.toDigits 10 n).flatMap String.utf8EncodeChar) := by
  induction n using Nat.strongRecOn with
  | ind n ih =>
    by_cases hn : n < 10
    · obtain ⟨hdigit, hvalue, hbytes, hzero⟩ := isDigit_last n hn
      rw [Nat.toDigits_of_lt_base hn, List.flatMap_singleton, hbytes]
      refine ⟨fun b hb => ?_, ?_, _, [], rfl, fun h => ⟨hzero h, rfl⟩⟩
      · rwa [List.mem_singleton.1 hb]
      · rw [List.map_singleton, hvalue]
        exact Nat.zero_add n
    · have hlast := Nat.mod_lt n (show 10 > 0 by decide)
      have hmore := (ih (n / 10) (by omega)).concat (by omega) hlast
      rw [Nat.toDigits_of_base_le (by decide) (Nat.le_of_not_lt hn), List.flatMap_append,
        List.flatMap_singleton, (isDigit_last _ hlast).2.2.1]
      rwa [Nat.div_add_mod'] at hmore

lemma isDecimal_toString (n : Nat) : IsDecimal n (Utf8.encode (toString n)) := by
  rw [Utf8.encode, Nat.toString_eq_repr, Nat.toList_repr]
  exact isDecimal_toDigits n

/-! ### Reading -/

/-- Nothing that a numeral goes on with. -/
def EndsNumeral (bs : List UInt8) : Prop :=
  ∀ b ∈ bs.head?, isDigit b = false ∧ b ≠ 46 ∧ b ≠ 101 ∧ b ≠ 69

lemma endsNumeral_nil : EndsNumeral [] := nofun

lemma endsNumeral_cons (h : isDigit x = false ∧ x ≠ 46 ∧ x ≠ 101 ∧ x ≠ 69) :
    EndsNumeral (x :: bs) := by
  rintro b ⟨⟩
  exact h

lemma someDigits_append (hbs : ∀ b ∈ bs, isDigit b = true) (hne : bs ≠ [])
    (hrest : EndsNumeral rest) : someDigits (bs ++ rest) = .ok (bs.map digit, rest) := by
  have hnone : rest.takeWhile isDigit = [] ∧ rest.dropWhile isDigit = rest := by
    rcases rest with _ | ⟨b, rest⟩
    · exact ⟨rfl, rfl⟩
    · have hb := (hrest b rfl).1
      exact ⟨List.takeWhile_cons_of_neg (by simp [hb]), List.dropWhile_cons_of_neg (by simp [hb])⟩
  rw [someDigits, List.takeWhile_append_of_pos hbs, List.dropWhile_append_of_pos hbs, hnone.1,
    hnone.2, List.append_nil]
  rcases bs with _ | ⟨b, bs⟩
  · exact absurd rfl hne
  · rfl

lemma wholeDigits_append (h : IsDecimal n bs) (hrest : EndsNumeral rest) :
    wholeDigits (bs ++ rest) = .ok (bs.map digit, rest) := by
  obtain ⟨b, more, rfl, hlead⟩ := h.lead
  have hsome := someDigits_append h.digits (List.cons_ne_nil b more) hrest
  by_cases hb : b = 48
  · -- a zero stands alone
    obtain ⟨-, rfl⟩ := hlead hb
    subst hb
    rcases rest with _ | ⟨c, rest⟩
    · exact hsome
    · rw [List.singleton_append, wholeDigits, if_neg (by simp [(hrest c rfl).1])]
      rfl
  · rw [← hsome, wholeDigits.eq_def]
    split
    · rename_i heq
      exact absurd (List.cons.inj heq).1 hb
    · rfl

lemma readNumber_decimal (h : IsDecimal n bs) (hn : n < Numeral.wordLimit)
    (hrest : EndsNumeral rest) : readNumber (bs ++ rest) = (⟨.ok (.natural n), none⟩, rest) := by
  have hfraction : fractionDigits rest = .ok (none, rest) := by
    rw [fractionDigits.eq_def]
    split
    · exact absurd rfl (hrest 46 rfl).2.1
    · rfl
  have hexponent : exponentDigits rest = .ok (none, rest) := by
    rcases rest with _ | ⟨e, rest⟩
    · rfl
    · obtain ⟨-, -, hlower, hupper⟩ := hrest e rfl
      rw [exponentDigits, if_neg (by simp [hlower, hupper])]
  have hscan : scanNumeral false (bs ++ rest) =
      .ok (⟨false, bs.map digit, none, none⟩, rest) := by
    rw [scanNumeral, wholeDigits_append h hrest]
    simp only [bind, Except.bind, hfraction, hexponent]
    rfl
  have hnumber : Numeral.number ⟨false, bs.map digit, none, none⟩ = .ok (.natural n) := by
    have hwhole : Numeral.whole? ⟨false, bs.map digit, none, none⟩ = some (.natural n) := by
      simp [Numeral.whole?, h.value, hn]
    rw [Numeral.number, hwhole]
  rw [readNumber, hscan]
  · dsimp only
    rw [hnumber]
  · -- a digit is no sign
    obtain ⟨b, more, rfl, -⟩ := h.lead
    intro more heq
    have hb := h.digits b List.mem_cons_self
    rw [(List.cons.inj heq).1] at hb
    exact absurd hb (by decide)

end RegistrySync.Json
