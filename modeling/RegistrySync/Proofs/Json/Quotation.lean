import RegistrySync.Json.Quotation
import RegistrySync.Json.Basic
import RegistrySync.Proofs.Text.Utf8

/-!
Text in quotation marks is read back.

Each character is read off its escape, whatever follows it, by the reader that wants the content and
by the one that only looks for the closing mark.
-/

namespace RegistrySync.Json

open Text

variable {b e x : UInt8} {n : Nat} {c : Char} {bs rest : List UInt8}

/-! ### Single bytes and escapes -/

def IsPlainByte (b : UInt8) : Prop := b ≠ quote ∧ b ≠ backslash ∧ ¬ b < 0x20

lemma contentBytes_plain (h : ∀ b ∈ bs, IsPlainByte b) :
    contentBytes (bs ++ rest) = (contentBytes rest).map (bs ++ ·) := by
  induction bs with
  | nil =>
    rw [List.nil_append]
    rcases contentBytes rest <;> rfl
  | cons b bs ih =>
    obtain ⟨hq, hb, hc⟩ := h b List.mem_cons_self
    rw [List.cons_append, contentBytes.eq_def]
    dsimp only
    rw [if_neg hq, if_neg hb, if_neg hc, ih fun x hx => h x (List.mem_cons_of_mem b hx)]
    rcases contentBytes rest <;> rfl

lemma pass_plain (h : ∀ b ∈ bs, IsPlainByte b) : pass (bs ++ rest) = pass rest := by
  induction bs with
  | nil => rfl
  | cons b bs ih =>
    obtain ⟨hq, hb, hc⟩ := h b List.mem_cons_self
    rw [List.cons_append, pass.eq_def]
    dsimp only
    rw [if_neg hq, if_neg hb, if_neg hc]
    exact ih fun x hx => h x (List.mem_cons_of_mem b hx)

lemma read_short (h : shortEscape e = some x) :
    contentBytes (backslash :: e :: rest) = (contentBytes rest).map (x :: ·) ∧
      pass (backslash :: e :: rest) = pass rest := by
  have hne : e ≠ letterU := by
    rintro rfl
    cases h
  constructor
  · rw [contentBytes.eq_def]
    dsimp only
    rw [if_neg (by decide), if_pos rfl, if_neg hne, h]
  · rw [pass.eq_def]
    dsimp only
    rw [if_neg (by decide), if_pos rfl, if_neg hne, h]
    rfl

lemma read_unit {h₁ h₂ h₃ h₄ : UInt8} (h : codeUnit? h₁ h₂ h₃ h₄ = some n) (hn : n < 0xD800) :
    contentBytes (backslash :: letterU :: h₁ :: h₂ :: h₃ :: h₄ :: rest) =
        (contentBytes rest).map (codePointBytes n ++ ·) ∧
      pass (backslash :: letterU :: h₁ :: h₂ :: h₃ :: h₄ :: rest) = pass rest := by
  have hl : isLeading n = false := by
    simp only [isLeading, Bool.and_eq_false_iff, decide_eq_false_iff_not]
    omega
  have ht : isTrailing n = false := by
    simp only [isTrailing, Bool.and_eq_false_iff, decide_eq_false_iff_not]
    omega
  constructor
  · rw [contentBytes.eq_def]
    dsimp only
    rw [if_neg (by decide), if_pos rfl, if_pos rfl, h]
    simp only [hl, ht, Bool.false_eq_true, if_false]
  · rw [pass.eq_def]
    dsimp only
    rw [if_neg (by decide), if_pos rfl, if_pos rfl, h]
    rfl

/-! ### Characters -/

/-- The characters with an escape of two signs. -/
def shortEscaped : List Char := ['"', '\\', '\x08', '\t', '\n', '\x0c', '\r']

def escapeBytes (c : Char) : List UInt8 := (escape c).flatMap String.utf8EncodeChar

lemma escapeBytes_control : ∀ n < 0x20, Char.ofNat n ∉ shortEscaped →
    escapeBytes (Char.ofNat n) = [backslash, letterU, 48, 48,
      UInt8.ofNat (hexDigit (n / 16)).toNat, UInt8.ofNat (hexDigit (n % 16)).toNat] ∧
    codeUnit? 48 48 (UInt8.ofNat (hexDigit (n / 16)).toNat)
      (UInt8.ofNat (hexDigit (n % 16)).toNat) = some n := by
  decide

lemma escapeBytes_short (h : c ∈ shortEscaped) :
    ∃ e x, escapeBytes c = [backslash, e] ∧ shortEscape e = some x ∧
      String.utf8EncodeChar c = [x] := by
  simp only [shortEscaped, List.mem_cons, List.not_mem_nil, or_false] at h
  rcases h with rfl | rfl | rfl | rfl | rfl | rfl | rfl
  · exact ⟨34, 34, rfl, rfl, rfl⟩
  · exact ⟨92, 92, rfl, rfl, rfl⟩
  · exact ⟨98, 8, rfl, rfl, rfl⟩
  · exact ⟨116, 9, rfl, rfl, rfl⟩
  · exact ⟨110, 10, rfl, rfl, rfl⟩
  · exact ⟨102, 12, rfl, rfl, rfl⟩
  · exact ⟨114, 13, rfl, rfl, rfl⟩

lemma escapeBytes_plain (h : c ∉ shortEscaped)
    (hc : ¬ c.toNat < 0x20) :
    escapeBytes c = String.utf8EncodeChar c ∧ ∀ b ∈ escapeBytes c, IsPlainByte b := by
  have hself : escape c = [c] := by
    rw [escape.eq_def]
    split
    case h_8 => exact if_neg hc
    all_goals exact absurd (by decide) h
  have hbytes : escapeBytes c = String.utf8EncodeChar c := by simp [escapeBytes, hself]
  refine ⟨hbytes, fun b hb => ?_⟩
  have hne (d : Char) (hd : d ∈ shortEscaped) :
      c.toNat ≠ d.toNat := fun e => h (Char.toNat_inj.1 e ▸ hd)
  have hquote := hne '"' (by decide)
  have hslash := hne '\\' (by decide)
  -- a byte below 128 is the character itself
  have hval := Utf8.mem_utf8EncodeChar (hbytes ▸ hb)
  have hq : '"'.toNat = 34 := rfl
  have hs : '\\'.toNat = 92 := rfl
  refine ⟨?_, ?_, ?_⟩
  · rintro rfl
    have : quote.toNat = 34 := rfl
    omega
  · rintro rfl
    have : backslash.toNat = 92 := rfl
    omega
  · rw [UInt8.lt_iff_toNat_lt]
    have : (0x20 : UInt8).toNat = 32 := rfl
    omega

lemma read_escape (c : Char) (rest : List UInt8) :
    contentBytes (escapeBytes c ++ rest) =
        (contentBytes rest).map (String.utf8EncodeChar c ++ ·) ∧
      pass (escapeBytes c ++ rest) = pass rest := by
  by_cases hshort : c ∈ shortEscaped
  · obtain ⟨e, x, hbytes, hx, hc⟩ := escapeBytes_short hshort
    rw [hbytes, hc]
    exact read_short hx
  · by_cases hlow : c.toNat < 0x20
    · have hother : Char.ofNat c.toNat ∉ shortEscaped := by rwa [Char.ofNat_toNat]
      obtain ⟨hbytes, hunit⟩ := escapeBytes_control c.toNat hlow hother
      have hcode : codePointBytes c.toNat = String.utf8EncodeChar c := by
        rw [codePointBytes, Char.ofNat_toNat]
      rw [Char.ofNat_toNat] at hbytes
      rw [hbytes, ← hcode]
      exact read_unit hunit (by omega)
    · obtain ⟨hbytes, hplain⟩ := escapeBytes_plain hshort hlow
      rw [← hbytes]
      exact ⟨contentBytes_plain hplain, pass_plain hplain⟩

/-! ### Texts -/

lemma read_escapes (cs : List Char) (rest : List UInt8) :
    contentBytes (cs.flatMap escapeBytes ++ quote :: rest) =
        .ok (cs.flatMap String.utf8EncodeChar) ∧
      pass (cs.flatMap escapeBytes ++ quote :: rest) = .ok rest := by
  induction cs with
  | nil =>
    constructor
    · rw [List.flatMap_nil, List.nil_append, contentBytes.eq_def]
      rfl
    · rw [List.flatMap_nil, List.nil_append, pass.eq_def]
      rfl
  | cons c cs ih =>
    obtain ⟨hcontent, hpass⟩ := read_escape c (cs.flatMap escapeBytes ++ quote :: rest)
    rw [List.flatMap_cons, List.append_assoc, hcontent, hpass, ih.1, ih.2]
    exact ⟨rfl, rfl⟩

lemma readQuotation_escapes (s : String) (rest : List UInt8) :
    readQuotation (s.toList.flatMap escapeBytes ++ quote :: rest) = (⟨.ok s, none⟩, rest) := by
  obtain ⟨hcontent, hpass⟩ := read_escapes s.toList rest
  have hdecode : Utf8.decode (s.toList.flatMap String.utf8EncodeChar) = .ok s :=
    Utf8.decode_encode s
  have hread : content (s.toList.flatMap escapeBytes ++ quote :: rest) = .ok s := by
    rw [content, hcontent]
    simp only [bind, Except.bind, hdecode]
    rfl
  rw [readQuotation, hpass, hread]

lemma encode_printText (s : String) :
    Utf8.encode (printText s) = quote :: (s.toList.flatMap escapeBytes ++ [quote]) := by
  have hquote : String.utf8EncodeChar '"' = [quote] := rfl
  simp only [Utf8.encode, printText, String.toList_ofList, List.flatMap_cons, List.flatMap_append,
    List.flatMap_assoc, List.flatMap_nil, hquote, List.cons_append, List.nil_append]
  rfl

end RegistrySync.Json
