import Mathlib.Data.List.Infix
import Mathlib.Tactic.Lemma
import Mathlib.Tactic.SplitIfs
import RegistrySync.Text.Utf8

/-!
UTF-8 is read back.

Each character is read off the bytes it is written as, whatever follows them, so a text is read
back from its bytes even by the reading that never fails. Of bytes that are no text, that reading
still keeps the ASCII texts among them, and makes up none.
-/

namespace RegistrySync.Text.Utf8

variable {a b d e : UInt8} {rest : List UInt8}

/-! ### Reading characters of each length -/

lemma piece_one (ha : a.toNat < 0x80) : piece a rest = .char (Char.ofNat a.toNat) rest := by
  rw [piece.eq_def, if_pos (UInt8.lt_iff_toNat_lt.2 ha)]

lemma isTail_iff : isTail b = true ↔ 0x80 ≤ b.toNat ∧ b.toNat ≤ 0xBF := by
  simp [isTail, UInt8.le_iff_toNat_le]

lemma piece_two (ha : 0xC2 ≤ a.toNat ∧ a.toNat ≤ 0xDF) (hb : isTail b = true) :
    piece a (b :: rest) = .char (Char.ofNat (bits a 32 * 64 + bits b 64)) rest := by
  have h1 : ¬ a < 0x80 := by
    simp [UInt8.lt_iff_toNat_lt]
    omega
  have h2 : (0xC2 ≤ a && a ≤ 0xDF) = true := by simpa [UInt8.le_iff_toNat_le] using ha
  rw [piece.eq_def, if_neg h1, if_pos h2]
  simp [hb]

lemma piece_three (ha : 0xE0 ≤ a.toNat ∧ a.toNat ≤ 0xEF) (hb : isSecond a b = true)
    (hd : isTail d = true) : piece a (b :: d :: rest) =
      .char (Char.ofNat ((bits a 16 * 64 + bits b 64) * 64 + bits d 64)) rest := by
  have h1 : ¬ a < 0x80 := by
    simp [UInt8.lt_iff_toNat_lt]
    omega
  have h2 : ¬ (0xC2 ≤ a && a ≤ 0xDF) = true := by
    simp [UInt8.le_iff_toNat_le]
    omega
  have h3 : (0xE0 ≤ a && a ≤ 0xEF) = true := by simpa [UInt8.le_iff_toNat_le] using ha
  rw [piece.eq_def, if_neg h1, if_neg h2, if_pos h3]
  simp [hb, hd]

lemma piece_four (ha : 0xF0 ≤ a.toNat ∧ a.toNat ≤ 0xF4) (hb : isSecond a b = true)
    (hd : isTail d = true) (he : isTail e = true) : piece a (b :: d :: e :: rest) =
      .char (Char.ofNat (((bits a 8 * 64 + bits b 64) * 64 + bits d 64) * 64 + bits e 64))
        rest := by
  have h1 : ¬ a < 0x80 := by
    simp [UInt8.lt_iff_toNat_lt]
    omega
  have h2 : ¬ (0xC2 ≤ a && a ≤ 0xDF) = true := by
    simp [UInt8.le_iff_toNat_le]
    omega
  have h3 : ¬ (0xE0 ≤ a && a ≤ 0xEF) = true := by
    simp [UInt8.le_iff_toNat_le]
    omega
  have h4 : (0xF0 ≤ a && a ≤ 0xF4) = true := by simpa [UInt8.le_iff_toNat_le] using ha
  rw [piece.eq_def, if_neg h1, if_neg h2, if_neg h3, if_pos h4]
  simp [hb, hd, he]

lemma isSecond_iff : isSecond a b = true ↔
    0x80 ≤ b.toNat ∧ b.toNat ≤ 0xBF ∧ (a.toNat = 0xE0 → 0xA0 ≤ b.toNat) ∧
      (a.toNat = 0xED → b.toNat ≤ 0x9F) ∧ (a.toNat = 0xF0 → 0x90 ≤ b.toNat) ∧
      (a.toNat = 0xF4 → b.toNat ≤ 0x8F) := by
  simp only [isSecond, beq_iff_eq, ← UInt8.toNat_inj, UInt8.reduceToNat]
  split_ifs
  · simp [UInt8.le_iff_toNat_le]
    omega
  · simp [UInt8.le_iff_toNat_le]
    omega
  · simp [UInt8.le_iff_toNat_le]
    omega
  · simp [UInt8.le_iff_toNat_le]
    omega
  · rw [isTail_iff]
    omega

/-! ### Reading back -/

lemma piece_encode (c : Char) (rest : List UInt8) :
    ∃ a bs, String.utf8EncodeChar c = a :: bs ∧ piece a (bs ++ rest) = .char c rest := by
  obtain ⟨n, hn⟩ : ∃ n, n = c.val.toNat := ⟨_, rfl⟩
  have hc : Char.ofNat n = c := by
    rw [hn]
    exact Char.ofNat_toNat c
  have hvalid : n < 0xD800 ∨ 0xDFFF < n ∧ n < 0x110000 := by
    rw [hn]
    exact c.valid
  have htoNat (m : Nat) (hm : m < 256) : (UInt8.ofNat m).toNat = m := by
    rw [UInt8.toNat_ofNat']
    omega
  rw [String.utf8EncodeChar, ← hn]
  split_ifs with h1 h2 h3
  all_goals refine ⟨_, _, rfl, ?_⟩
  · have ha := htoNat n (by omega)
    rw [List.nil_append, piece_one (by omega), ha, hc]
  · have ha := htoNat (n / 64 % 32 + 192) (by omega)
    have hb := htoNat (n % 64 + 128) (by omega)
    have hval : (n / 64 % 32 + 192) % 32 * 64 + (n % 64 + 128) % 64 = n := by omega
    rw [List.cons_append, List.nil_append, piece_two (by omega) (isTail_iff.2 (by omega)), bits,
      bits, ha, hb, hval, hc]
  · have ha := htoNat (n / 4096 % 16 + 224) (by omega)
    have hb := htoNat (n / 64 % 64 + 128) (by omega)
    have hd := htoNat (n % 64 + 128) (by omega)
    have hval : ((n / 4096 % 16 + 224) % 16 * 64 + (n / 64 % 64 + 128) % 64) * 64 +
        (n % 64 + 128) % 64 = n := by omega
    rw [List.cons_append, List.cons_append, List.nil_append, piece_three (by omega)
      (isSecond_iff.2 (by omega)) (isTail_iff.2 (by omega)), bits, bits, bits, ha, hb, hd, hval, hc]
  · have ha := htoNat (n / 262144 % 8 + 240) (by omega)
    have hb := htoNat (n / 4096 % 64 + 128) (by omega)
    have hd := htoNat (n / 64 % 64 + 128) (by omega)
    have he := htoNat (n % 64 + 128) (by omega)
    have hval : (((n / 262144 % 8 + 240) % 8 * 64 + (n / 4096 % 64 + 128) % 64) * 64 +
        (n / 64 % 64 + 128) % 64) * 64 + (n % 64 + 128) % 64 = n := by omega
    rw [List.cons_append, List.cons_append, List.cons_append, List.nil_append,
      piece_four (by omega) (isSecond_iff.2 (by omega)) (isTail_iff.2 (by omega))
        (isTail_iff.2 (by omega)), bits, bits, bits, bits, ha, hb, hd, he, hval, hc]

lemma decodeLossyChars_encode_append (cs : List Char) (rest : List UInt8) :
    decodeLossyChars (cs.flatMap String.utf8EncodeChar ++ rest) = cs ++ decodeLossyChars rest := by
  induction cs with
  | nil => rfl
  | cons c cs ih =>
    obtain ⟨a, bs, hc, hpiece⟩ := piece_encode c (cs.flatMap String.utf8EncodeChar ++ rest)
    rw [List.flatMap_cons, hc, List.append_assoc, List.cons_append, decodeLossyChars]
    split
    · rename_i hp
      rw [hpiece] at hp
      cases hp
      rw [ih, List.cons_append]
    · rename_i hp
      rw [hpiece] at hp
      cases hp
    · rename_i hp
      rw [hpiece] at hp
      cases hp

lemma decodeLossyChars_encode (cs : List Char) :
    decodeLossyChars (cs.flatMap String.utf8EncodeChar) = cs := by
  have hnil : decodeLossyChars [] = [] := by rw [decodeLossyChars]
  rw [← List.append_nil (cs.flatMap String.utf8EncodeChar), decodeLossyChars_encode_append, hnil,
    List.append_nil]

lemma decodeLossy_encode (s : String) : decodeLossy (encode s) = s := by
  rw [decodeLossy, encode, decodeLossyChars_encode, String.ofList_toList]

lemma decodeFrom_encode (total : Nat) (cs : List Char) :
    decodeFrom total (cs.flatMap String.utf8EncodeChar) = .ok cs := by
  induction cs with
  | nil => rw [List.flatMap_nil, decodeFrom]
  | cons c cs ih =>
    obtain ⟨a, bs, hc, hpiece⟩ := piece_encode c (cs.flatMap String.utf8EncodeChar)
    rw [List.flatMap_cons, hc, List.cons_append, decodeFrom]
    split
    · rename_i hp
      rw [hpiece] at hp
      cases hp
      rw [ih]
      rfl
    · rename_i hp
      rw [hpiece] at hp
      cases hp
    · rename_i hp
      rw [hpiece] at hp
      cases hp

lemma decode_encode (s : String) : decode (encode s) = .ok s := by
  rw [decode, encode, decodeFrom_encode]
  exact congrArg Except.ok (String.ofList_toList)

/-! ### Single bytes -/

lemma mem_utf8EncodeChar {c : Char} {b : UInt8} (h : b ∈ String.utf8EncodeChar c) :
    b.toNat = c.toNat ∨ 0x80 ≤ b.toNat := by
  obtain ⟨n, hn⟩ : ∃ n, n = c.val.toNat := ⟨_, rfl⟩
  have hc : c.toNat = n := hn.symm
  rw [hc]
  rw [String.utf8EncodeChar, ← hn] at h
  split_ifs at h with h1 h2 h3
  all_goals
    simp only [List.mem_cons, List.not_mem_nil, or_false] at h
  · left
    rw [h, UInt8.toNat_ofNat']
    omega
  all_goals right
  · rcases h with rfl | rfl
    all_goals
      rw [UInt8.toNat_ofNat']
      omega
  · rcases h with rfl | rfl | rfl
    all_goals
      rw [UInt8.toNat_ofNat']
      omega
  · rcases h with rfl | rfl | rfl | rfl
    all_goals
      rw [UInt8.toNat_ofNat']
      omega

lemma utf8EncodeChar_ascii :
    ∀ n < 0x80, String.utf8EncodeChar (Char.ofNat n) = [UInt8.ofNat n] := by
  decide

/-! ### Where an ASCII byte cuts -/

lemma isTail_ascii (hb : b.toNat < 0x80) : isTail b = false := by
  refine Bool.eq_false_iff.2 fun h => ?_
  have := isTail_iff.1 h
  omega

lemma isSecond_ascii (hb : b.toNat < 0x80) : isSecond a b = false := by
  refine Bool.eq_false_iff.2 fun h => ?_
  have := isSecond_iff.1 h
  omega

lemma piece_append (he : e.toNat < 0x80) (bs : List UInt8) : piece a (bs ++ e :: rest) =
    match piece a bs with
    | .char c r => .char c (r ++ e :: rest)
    | .invalid n r => .invalid n (r ++ e :: rest)
    | .incomplete => .invalid (bs.length + 1) (e :: rest) := by
  have htail := isTail_ascii he
  have hsecond := isSecond_ascii (a := a) he
  rw [piece.eq_def, piece.eq_def]
  rcases bs with _ | ⟨b, _ | ⟨c, _ | ⟨d, bs⟩⟩⟩
  all_goals
    simp only [List.nil_append, List.cons_append, htail, hsecond, Bool.false_eq_true, if_false]
    split_ifs <;> rfl

lemma decodeLossyChars_append (he : e.toNat < 0x80) (bs : List UInt8) :
    decodeLossyChars (bs ++ e :: rest) =
      decodeLossyChars bs ++ Char.ofNat e.toNat :: decodeLossyChars rest := by
  have hcons : decodeLossyChars (e :: rest) = Char.ofNat e.toNat :: decodeLossyChars rest := by
    rw [decodeLossyChars]
    split <;> rename_i h <;> rw [piece_one he] at h <;> cases h
    rfl
  fun_induction decodeLossyChars bs with
  | case1 => exact hcons
  | case2 a bs c r h ih =>
    rw [List.cons_append, decodeLossyChars]
    split <;> rename_i h' <;> rw [piece_append he, h] at h' <;> cases h'
    rw [ih, List.cons_append]
  | case3 a bs n r h ih =>
    rw [List.cons_append, decodeLossyChars]
    split <;> rename_i h' <;> rw [piece_append he, h] at h' <;> cases h'
    rw [ih, List.cons_append]
  | case4 a bs h =>
    rw [List.cons_append, decodeLossyChars]
    split <;> rename_i h' <;> rw [piece_append he, h] at h' <;> cases h'
    rw [hcons, List.singleton_append]

/-! ### Texts of ASCII characters -/

/-- A character of one byte; NUL is left out, which numbers that are no characters are taken for. -/
def IsSingle (c : Char) : Prop := 0 < c.toNat ∧ c.toNat < 0x80

instance (c : Char) : Decidable (IsSingle c) := inferInstanceAs (Decidable (_ ∧ _))

lemma eq_toNat_of_ofNat {n : Nat} {c : Char} (h : Char.ofNat n = c) (hc : 0 < c.toNat) :
    n = c.toNat := by
  by_cases hn : n.isValidChar
  · rw [Char.ofNat, dif_pos hn] at h
    exact congrArg Char.toNat h
  · rw [Char.ofNat, dif_neg hn] at h
    rw [← h] at hc
    cases hc

lemma piece_ascii {c : Char} {bs r : List UInt8} (hc : IsSingle c) (h : piece a bs = .char c r) :
    a.toNat = c.toNat ∧ r = bs := by
  have hlt := hc.2
  rw [piece.eq_def] at h
  simp only [Bool.and_eq_true, decide_eq_true_eq, UInt8.lt_iff_toNat_lt, UInt8.le_iff_toNat_le,
    UInt8.reduceToNat] at h
  split_ifs at h with h1 h2 h3 h4
  · obtain ⟨hchar, hrest⟩ := Piece.char.inj h
    exact ⟨eq_toNat_of_ofNat hchar hc.1, hrest.symm⟩
  · -- what is read off two or more bytes is beyond ASCII
    rcases bs with _ | ⟨b, bs⟩
    · cases h
    · dsimp only at h
      split_ifs at h
      have := eq_toNat_of_ofNat (Piece.char.inj h).1 hc.1
      simp only [bits] at this
      omega
  · rcases bs with _ | ⟨b, _ | ⟨d, bs⟩⟩
    · cases h
    · dsimp only at h
      split_ifs at h
    · dsimp only at h
      split_ifs at h with hb
      have := eq_toNat_of_ofNat (Piece.char.inj h).1 hc.1
      have := isSecond_iff.1 hb
      simp only [bits] at *
      omega
  · rcases bs with _ | ⟨b, _ | ⟨d, _ | ⟨e, bs⟩⟩⟩
    · cases h
    · dsimp only at h
      split_ifs at h
    · dsimp only at h
      split_ifs at h
    · dsimp only at h
      split_ifs at h with hb
      have := eq_toNat_of_ofNat (Piece.char.inj h).1 hc.1
      have := isSecond_iff.1 hb
      simp only [bits] at *
      omega

lemma rest_piece_suffix (a : UInt8) (bs : List UInt8) : (piece a bs).rest <:+ bs := by
  rw [piece.eq_def]
  repeat' split
  all_goals simp only [Piece.rest, List.nil_suffix, List.suffix_rfl, List.suffix_cons]
  · exact ⟨[_, _], rfl⟩
  · exact ⟨[_, _, _], rfl⟩
  · exact ⟨[_, _], rfl⟩

lemma decodeLossyChars_cons (a : UInt8) (bs : List UInt8) :
    ∃ c, decodeLossyChars (a :: bs) = c :: decodeLossyChars (piece a bs).rest ∧
      (IsSingle c → a.toNat = c.toNat ∧ (piece a bs).rest = bs) := by
  have hreplacement : ¬ IsSingle replacement := by decide
  rw [decodeLossyChars]
  split
  · rename_i c rest hpiece
    rw [hpiece]
    exact ⟨c, rfl, fun hc => piece_ascii hc hpiece⟩
  · rename_i hpiece
    rw [hpiece]
    exact ⟨replacement, rfl, fun hc => absurd hc hreplacement⟩
  · rename_i hpiece
    rw [hpiece, Piece.rest, decodeLossyChars]
    exact ⟨replacement, rfl, fun hc => absurd hc hreplacement⟩

variable {cs : List Char} {bs : List UInt8}

lemma utf8EncodeChar_of_isSingle {c : Char} (hc : IsSingle c) :
    String.utf8EncodeChar c = [UInt8.ofNat c.toNat] := by
  have h := utf8EncodeChar_ascii c.toNat hc.2
  rwa [Char.ofNat_toNat] at h

lemma prefix_of_prefix_decodeLossyChars (hcs : ∀ c ∈ cs, IsSingle c)
    (h : cs <+: decodeLossyChars bs) : cs.flatMap String.utf8EncodeChar <+: bs := by
  induction cs generalizing bs with
  | nil => exact List.nil_prefix
  | cons c cs ih =>
    obtain ⟨hc, hcs⟩ := List.forall_mem_cons.1 hcs
    rcases bs with _ | ⟨a, bs⟩
    · rw [decodeLossyChars, List.prefix_nil] at h
      cases h
    · obtain ⟨d, hd, hsingle⟩ := decodeLossyChars_cons a bs
      rw [hd, List.cons_prefix_cons] at h
      obtain ⟨rfl, h⟩ := h
      obtain ⟨ha, hrest⟩ := hsingle hc
      rw [hrest] at h
      rw [List.flatMap_cons, utf8EncodeChar_of_isSingle hc, ← ha, UInt8.ofNat_toNat,
        List.singleton_append, List.cons_prefix_cons]
      exact ⟨rfl, ih hcs h⟩

/-- An ASCII text stands among the characters that bytes are read as exactly if its bytes stand
among these. -/
lemma infix_decodeLossyChars_iff (hcs : ∀ c ∈ cs, IsSingle c) :
    cs <:+: decodeLossyChars bs ↔ cs.flatMap String.utf8EncodeChar <:+: bs := by
  constructor
  · intro h
    induction hn : bs.length using Nat.strong_induction_on generalizing bs with
    | _ n ih =>
      rcases bs with _ | ⟨a, bs⟩
      · rw [decodeLossyChars] at h
        rw [List.infix_nil.1 h]
        exact List.infix_rfl
      · obtain ⟨d, hd, -⟩ := decodeLossyChars_cons a bs
        rw [hd, List.infix_cons_iff] at h
        rcases h with h | h
        · rw [← hd] at h
          exact (prefix_of_prefix_decodeLossyChars hcs h).isInfix
        · have hlt : (piece a bs).rest.length < n := by
            have := length_rest_piece a bs
            rw [← hn, List.length_cons]
            omega
          have hsuffix := (rest_piece_suffix a bs).trans (List.suffix_cons a bs)
          exact (ih _ hlt h rfl).trans hsuffix.isInfix
  · -- its first byte ends whatever stands before it, so it is read by itself
    rintro ⟨before, after, rfl⟩
    rcases cs with _ | ⟨c, cs⟩
    · exact List.nil_infix
    · have hc := List.forall_mem_cons.1 hcs |>.1
      have hbyte : (UInt8.ofNat c.toNat).toNat = c.toNat := by
        have := hc.2
        rw [UInt8.toNat_ofNat']
        omega
      rw [List.flatMap_cons, utf8EncodeChar_of_isSingle hc, List.singleton_append,
        List.append_assoc, List.cons_append, decodeLossyChars_append (by rw [hbyte]; exact hc.2),
        decodeLossyChars_encode_append, hbyte, Char.ofNat_toNat]
      exact ⟨decodeLossyChars before, decodeLossyChars after, by simp⟩

lemma newline_mem_of_mem_decodeLossyChars (h : '\n' ∈ decodeLossyChars bs) : 10 ∈ bs := by
  have hsingle : ∀ c ∈ ['\n'], IsSingle c := List.forall_mem_singleton.2 (by decide)
  have hbytes := (infix_decodeLossyChars_iff hsingle).1 ((List.singleton_infix_iff ..).2 h)
  exact (List.singleton_infix_iff ..).1 hbytes

end RegistrySync.Text.Utf8
