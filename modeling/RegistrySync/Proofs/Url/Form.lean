import Mathlib.Tactic.Lemma
import RegistrySync.Proofs.Text.Cut
import RegistrySync.Proofs.Text.Utf8
import RegistrySync.Proofs.Url.Percent
import RegistrySync.Url.Basic

/-!
Pairs in a query are read back.

A name or value is written without the characters that set pairs and their parts apart, so a list
of pairs is read back from a query as it was put into it, behind the pairs that were there.
-/

namespace RegistrySync.Url

open Text

variable {bytes : List UInt8} {a b : List Char}

/-! ### Names and values -/

def formByte (b : UInt8) : List Char :=
  if inForm b then [Char.ofNat b.toNat] else if b == 32 then ['+'] else percentByte b

lemma formText_eq (s : String) : formText s = (Utf8.encode s).flatMap formByte := rfl

/-- A plus sign stands for a space. -/
def unplus (c : Char) : Char := if c = '+' then ' ' else c

lemma readText_eq (cs : List Char) : readText cs = Utf8.decodeLossy (unescape (cs.map unplus)) :=
  rfl

lemma inForm_plain : ∀ n : Fin 256, inForm (UInt8.ofNat n) = true →
    Char.ofNat n ≠ '+' ∧ Char.ofNat n ≠ '%' ∧
      String.utf8EncodeChar (Char.ofNat n) = [UInt8.ofNat n] := by
  decide +kernel

lemma plus_percentByte : ∀ n : Fin 256, '+' ∉ percentByte (UInt8.ofNat n) := by
  decide +kernel

lemma marks_formByte : ∀ n : Fin 256,
    '&' ∉ formByte (UInt8.ofNat n) ∧ '=' ∉ formByte (UInt8.ofNat n) := by
  decide +kernel

lemma unescape_formByte (b : UInt8) (cs : List Char) :
    unescape ((formByte b).map unplus ++ cs) = b :: unescape cs := by
  rw [formByte]
  split
  · rename_i hb
    obtain ⟨hp, hescape, hbyte⟩ := inForm_plain ⟨b.toNat, b.toNat_lt⟩ (by simpa using hb)
    have hplus : unplus (Char.ofNat b.toNat) = Char.ofNat b.toNat := if_neg hp
    rw [List.map_singleton, List.singleton_append, hplus, unescape_cons fun h => absurd h hescape,
      hbyte]
    simp
  · split
    · rename_i hb
      have hspace : b = 32 := eq_of_beq hb
      rw [hspace]
      exact unescape_cons nofun
    · have hplus : '+' ∉ percentByte b := by simpa using plus_percentByte ⟨b.toNat, b.toNat_lt⟩
      have hsame : (percentByte b).map unplus = percentByte b :=
        (List.map_congr_left fun c hc => if_neg (ne_of_mem_of_not_mem hc hplus)).trans
          (List.map_id _)
      rw [hsame, unescape_percentByte]

lemma readText_formText (s : String) : readText (formText s) = s := by
  have hbytes : ∀ bytes : List UInt8, unescape ((bytes.flatMap formByte).map unplus) = bytes := by
    intro bytes
    induction bytes with
    | nil => rfl
    | cons b bytes ih => rw [List.flatMap_cons, List.map_append, unescape_formByte, ih]
  rw [readText_eq, formText_eq, hbytes, Utf8.decodeLossy_encode]

lemma marks_formText (s : String) : '&' ∉ formText s ∧ '=' ∉ formText s := by
  have hbyte (b : UInt8) : '&' ∉ formByte b ∧ '=' ∉ formByte b := by
    simpa using marks_formByte ⟨b.toNat, b.toNat_lt⟩
  rw [formText_eq]
  simp only [List.mem_flatMap, not_exists, not_and]
  exact ⟨fun b _ => (hbyte b).1, fun b _ => (hbyte b).2⟩

/-! ### Pairs -/

def formPair (p : String × String) : List Char := formText p.1 ++ '=' :: formText p.2

lemma readPair_formPair (p : String × String) : readPair (formPair p) = p := by
  rw [readPair, formPair, cutFirst_append (marks_formText p.1).2]
  simp only [readText_formText]

lemma mark_formPair (p : String × String) : '&' ∉ formPair p := by
  simp [formPair, marks_formText]

lemma readPairs_append (a b : List Char) :
    readPairs (a ++ '&' :: b) = readPairs a ++ readPairs b := by
  simp [readPairs, pieces_append]

lemma readPairs_formPair (p : String × String) : readPairs (formPair p) = [p] := by
  have hne : formPair p ≠ [] := by simp [formPair]
  rw [readPairs, pieces_eq_self (mark_formPair p)]
  simp [hne, readPair_formPair]

lemma readPairs_formPairs (ps : List (String × String)) : readPairs (formPairs ps) = ps := by
  induction ps with
  | nil => rfl
  | cons p ps ih =>
    rcases ps with _ | ⟨q, qs⟩
    · exact readPairs_formPair p
    · have hcons : formPairs (p :: q :: qs) = formPair p ++ '&' :: formPairs (q :: qs) := by
        simp [formPairs, formPair]
      rw [hcons, readPairs_append, readPairs_formPair, ih]
      rfl

lemma withPairs_eq (u : Url) (ps : List (String × String)) :
    u.withPairs ps = { u with query := (u.withPairs ps).query } := by
  rcases ps with _ | ⟨p, ps⟩ <;> rfl

lemma pairs_withPairs (u : Url) (ps : List (String × String)) :
    (u.withPairs ps).pairs = u.pairs ++ ps := by
  have hnil : readPairs [] = [] := rfl
  rcases ps with _ | ⟨p, ps⟩
  · exact (List.append_nil _).symm
  · rw [withPairs]
    · simp only [pairs]
      split
      · rename_i hq
        simp [hq, hnil, readPairs_formPairs]
      · rename_i hq
        simp [hq, hnil, readPairs_formPairs]
      · rename_i q _ hq
        simp [hq, readPairs_append, readPairs_formPairs]
    · nofun

end RegistrySync.Url
