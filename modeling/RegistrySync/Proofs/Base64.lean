import Mathlib.Tactic.Lemma
import RegistrySync.Base64
import RegistrySync.Proofs.Except

/-!
Reading back base64.

What is written in an alphabet is read back in it, group by group, whatever the bytes are.
-/

namespace RegistrySync.Base64

/-- An alphabet whose symbols tell their values, and none of which is the padding sign. -/
structure Alphabet.IsReadable (a : Alphabet) : Prop where
  value : ∀ n < 64, a.value? (a.symbol n) = some n
  ne_pad : ∀ n < 64, a.symbol n ≠ pad

lemma isReadable_standard : standard.IsReadable := ⟨by decide, by decide⟩

lemma isReadable_urlSafe : urlSafe.IsReadable := ⟨by decide, by decide⟩

variable {a : Alphabet} {w x y z : UInt8} {n p q r s offset seen : Nat} {rest bs : List UInt8}

/-! ### Groups of bits -/

lemma four_symbols (n : Nat) :
    ((n / 262144 * 64 + n / 4096 % 64) * 64 + n / 64 % 64) * 64 + n % 64 = n := by
  omega

lemma three_bytes (x y z : UInt8) : let n := (x.toNat * 256 + y.toNat) * 256 + z.toNat
    UInt8.ofNat (n / 65536) = x ∧ UInt8.ofNat (n / 256 % 256) = y ∧ UInt8.ofNat (n % 256) = z := by
  intro n
  have hx := x.toNat_lt
  have hy := y.toNat_lt
  have hz := z.toNat_lt
  have h1 : n / 65536 = x.toNat := by omega
  have h2 : n / 256 % 256 = y.toNat := by omega
  have h3 : n % 256 = z.toNat := by omega
  rw [h1, h2, h3]
  exact ⟨UInt8.ofNat_toNat, UInt8.ofNat_toNat, UInt8.ofNat_toNat⟩

lemma two_bytes (x y : UInt8) : let n := (x.toNat * 256 + y.toNat) * 4
    (n / 4096 * 64 + n / 64 % 64) * 64 + n % 64 = n ∧ n % 4 = 0 ∧
      UInt8.ofNat (n / 1024) = x ∧ UInt8.ofNat (n / 4 % 256) = y := by
  intro n
  have hx := x.toNat_lt
  have hy := y.toNat_lt
  have h1 : n / 1024 = x.toNat := by omega
  have h2 : n / 4 % 256 = y.toNat := by omega
  rw [h1, h2]
  exact ⟨by omega, by omega, UInt8.ofNat_toNat, UInt8.ofNat_toNat⟩

lemma one_byte (x : UInt8) : let n := x.toNat / 4 * 64 + x.toNat * 16 % 64
    n % 16 = 0 ∧ UInt8.ofNat (n / 16) = x := by
  intro n
  have hx := x.toNat_lt
  have h1 : n / 16 = x.toNat := by omega
  rw [h1]
  exact ⟨by omega, UInt8.ofNat_toNat⟩

/-! ### The last group -/

lemma decodeTail_eq {text : List UInt8} {tail : Tail} (hread : readTail a offset 0 text = .ok tail)
    (hsize : text = [] ∨ 2 ≤ tail.symbols.length)
    (hfull : (tail.symbols.length + tail.pads) % 4 = 0) :
    decodeTail a offset text = tailBytes offset tail.symbols := by
  have hlong : ¬ (text ≠ [] ∧ tail.symbols.length < 2) := by
    rintro ⟨hne, hlt⟩
    exact hsize.elim hne fun hle => by omega
  rw [decodeTail, hread]
  simp only [bind, Except.bind, if_neg hlong, hfull, ne_eq, not_true_eq_false, if_false]

lemma readTail_pad (h : 2 ≤ seen) : readTail a offset seen [pad] = .ok ⟨[], 1⟩ := by
  rw [readTail, if_pos rfl, if_neg (by omega)]
  rfl

lemma readTail_pads (h : 2 ≤ seen) : readTail a offset seen [pad, pad] = .ok ⟨[], 2⟩ := by
  rw [readTail, if_pos rfl, if_neg (by omega)]
  rfl

section

variable (ha : a.IsReadable)
include ha

lemma valueAt_symbol (h : n < 64) : valueAt a offset (a.symbol n) = .ok n := by
  rw [valueAt, ha.value n h]

lemma readTail_symbol (h : n < 64) : readTail a offset seen (a.symbol n :: rest) =
    (readTail a offset (seen + 1) rest).map fun t =>
      { t with symbols := (a.symbol n, n) :: t.symbols } := by
  rw [readTail, if_neg (ha.ne_pad n h), valueAt_symbol ha h]
  rcases readTail a offset (seen + 1) rest <;> rfl

lemma decodeTail_three (x y z : UInt8) :
    decodeTail a offset (encode a [x, y, z]) = .ok [x, y, z] := by
  obtain ⟨n, hn⟩ : ∃ n, n = (x.toNat * 256 + y.toNat) * 256 + z.toNat := ⟨_, rfl⟩
  have hlt : n / 262144 < 64 := by
    have := x.toNat_lt
    have := y.toNat_lt
    have := z.toNat_lt
    omega
  have hread : readTail a offset 0 (encode a [x, y, z]) = .ok ⟨[(a.symbol (n / 262144), n / 262144),
      (a.symbol (n / 4096 % 64), n / 4096 % 64), (a.symbol (n / 64 % 64), n / 64 % 64),
      (a.symbol (n % 64), n % 64)], 0⟩ := by
    simp only [encode, ← hn]
    rw [readTail_symbol ha hlt, readTail_symbol ha (by omega), readTail_symbol ha (by omega),
      readTail_symbol ha (by omega)]
    rfl
  obtain ⟨hx, hy, hz⟩ := three_bytes x y z
  rw [decodeTail_eq hread (.inr (by simp)) (by simp), tailBytes]
  simp only [four_symbols, hn, hx, hy, hz]

lemma decodeTail_two (x y : UInt8) : decodeTail a offset (encode a [x, y]) = .ok [x, y] := by
  obtain ⟨n, hn⟩ : ∃ n, n = (x.toNat * 256 + y.toNat) * 4 := ⟨_, rfl⟩
  have hlt : n / 4096 < 64 := by
    have := x.toNat_lt
    have := y.toNat_lt
    omega
  have hread : readTail a offset 0 (encode a [x, y]) = .ok ⟨[(a.symbol (n / 4096), n / 4096),
      (a.symbol (n / 64 % 64), n / 64 % 64), (a.symbol (n % 64), n % 64)], 1⟩ := by
    simp only [encode, ← hn]
    rw [readTail_symbol ha hlt, readTail_symbol ha (by omega), readTail_symbol ha (by omega),
      readTail_pad (by omega)]
    rfl
  obtain ⟨hbits, hzero, hx, hy⟩ := two_bytes x y
  rw [decodeTail_eq hread (.inr (by simp)) (by simp), tailBytes]
  simp only [hn, hbits, hzero, hx, hy, if_true]

lemma decodeTail_one (x : UInt8) : decodeTail a offset (encode a [x]) = .ok [x] := by
  have hlt : x.toNat / 4 < 64 := by
    have := x.toNat_lt
    omega
  have hread : readTail a offset 0 (encode a [x]) = .ok
      ⟨[(a.symbol (x.toNat / 4), x.toNat / 4), (a.symbol (x.toNat * 16 % 64), x.toNat * 16 % 64)],
        2⟩ := by
    rw [encode, readTail_symbol ha hlt, readTail_symbol ha (by omega), readTail_pads (by omega)]
    rfl
  obtain ⟨hzero, hx⟩ := one_byte x
  rw [decodeTail_eq hread (.inr (by simp)) (by simp), tailBytes]
  simp only [hzero, hx, if_true]

/-! ### All groups -/

lemma decodeGroups_encode_cons (x y z next : UInt8) (rest : List UInt8) :
    decodeGroups a offset (encode a (x :: y :: z :: next :: rest)) =
      (decodeGroups a (offset + 4) (encode a (next :: rest))).map fun bytes =>
        x :: y :: z :: bytes := by
  obtain ⟨n, hn⟩ : ∃ n, n = (x.toNat * 256 + y.toNat) * 256 + z.toNat := ⟨_, rfl⟩
  have hlt : n / 262144 < 64 := by
    have := x.toNat_lt
    have := y.toNat_lt
    have := z.toNat_lt
    omega
  obtain ⟨b, bs, hbs⟩ : ∃ b bs, encode a (next :: rest) = b :: bs := by
    rcases rest with _ | ⟨_, _ | ⟨_, _⟩⟩ <;> exact ⟨_, _, rfl⟩
  obtain ⟨hx, hy, hz⟩ := three_bytes x y z
  rw [encode.eq_1]
  simp only [← hn, hbs]
  rw [decodeGroups, valueAt_symbol ha hlt, valueAt_symbol ha (by omega),
    valueAt_symbol ha (by omega), valueAt_symbol ha (by omega)]
  simp only [bind, Except.bind, four_symbols, hn, hx, hy, hz]
  rcases decodeGroups a (offset + 4) (b :: bs) <;> rfl

lemma decodeGroups_encode (bs : List UInt8) (offset : Nat) :
    decodeGroups a offset (encode a bs) = .ok bs := by
  induction bs using encode.induct generalizing offset with
  | case1 x y z rest ih =>
    rcases rest with _ | ⟨next, rest⟩
    · exact decodeTail_three ha x y z
    · rw [decodeGroups_encode_cons ha, ih]
      rfl
  | case2 x y => exact decodeTail_two ha x y
  | case3 x => exact decodeTail_one ha x
  | case4 => rfl

end

lemma length_encode (bs : List UInt8) : (encode a bs).length % 4 = 0 := by
  induction bs using encode.induct with
  | case1 x y z rest ih =>
    simp only [encode, List.length_cons]
    omega
  | case2 => simp [encode]
  | case3 => simp [encode]
  | case4 => rfl

lemma decode_encode (ha : a.IsReadable) (bs : List UInt8) : decode a (encode a bs) = .ok bs := by
  have hwhole : strayEnd a (encode a bs) = none := by
    rw [strayEnd, length_encode]
    rfl
  rw [decode, hwhole]
  exact decodeGroups_encode ha bs 0

lemma mem_encode {b : UInt8} (h : b ∈ encode a bs) : b = pad ∨ ∃ n < 64, b = a.symbol n := by
  induction bs using encode.induct with
  | case1 x y z rest ih =>
    have hx := x.toNat_lt
    have hy := y.toNat_lt
    have hz := z.toNat_lt
    simp only [encode, List.mem_cons] at h
    rcases h with rfl | rfl | rfl | rfl | h
    · exact .inr ⟨_, by omega, rfl⟩
    · exact .inr ⟨_, by omega, rfl⟩
    · exact .inr ⟨_, by omega, rfl⟩
    · exact .inr ⟨_, by omega, rfl⟩
    · exact ih h
  | case2 x y =>
    have hx := x.toNat_lt
    have hy := y.toNat_lt
    simp only [encode, List.mem_cons, List.not_mem_nil, or_false] at h
    rcases h with rfl | rfl | rfl | rfl
    · exact .inr ⟨_, by omega, rfl⟩
    · exact .inr ⟨_, by omega, rfl⟩
    · exact .inr ⟨_, by omega, rfl⟩
    · exact .inl rfl
  | case3 x =>
    have hx := x.toNat_lt
    simp only [encode, List.mem_cons, List.not_mem_nil, or_false] at h
    rcases h with rfl | rfl | rfl | rfl
    · exact .inr ⟨_, by omega, rfl⟩
    · exact .inr ⟨_, by omega, rfl⟩
    · exact .inl rfl
    · exact .inl rfl
  | case4 => cases h

/-! ### What can be read -/

/-- A byte that base64 is written with. -/
def Alphabet.Writes (a : Alphabet) (b : UInt8) : Prop := b = pad ∨ a.isSymbol b = true

lemma writes_of_valueAt (h : valueAt a offset w = .ok n) : a.Writes w := by
  rw [valueAt] at h
  rcases hv : a.value? w with _ | m
  · rw [hv] at h
    cases h
  · exact .inr (by rw [Alphabet.isSymbol, hv, Option.isSome_some])

lemma writes_of_readTail {text : List UInt8} {tail : Tail}
    (h : readTail a offset seen text = .ok tail) : ∀ b ∈ text, a.Writes b := by
  induction text generalizing seen tail with
  | nil => nofun
  | cons b rest ih =>
    rw [readTail] at h
    split at h
    · rename_i hb
      split at h
      · cases h
      · split at h
        · rename_i hall
          refine List.forall_mem_cons.2 ⟨.inl hb, fun x hx => .inl ?_⟩
          exact eq_of_beq (List.all_eq_true.1 hall x hx)
        · cases h
    · obtain ⟨n, hb, h⟩ := bind_eq_ok.1 h
      obtain ⟨more, hrest, -⟩ := bind_eq_ok.1 h
      exact List.forall_mem_cons.2 ⟨writes_of_valueAt hb, ih hrest⟩

lemma writes_of_decodeTail {text : List UInt8} (h : decodeTail a offset text = .ok bs) :
    ∀ b ∈ text, a.Writes b := by
  rw [decodeTail] at h
  obtain ⟨tail, hread, -⟩ := bind_eq_ok.1 h
  exact writes_of_readTail hread

lemma writes_of_decodeGroups {text : List UInt8} (h : decodeGroups a offset text = .ok bs) :
    ∀ b ∈ text, a.Writes b := by
  induction offset, text using decodeGroups.induct generalizing bs with
  | case1 offset w x y z next rest ih =>
    rw [decodeGroups] at h
    obtain ⟨p, hw, h⟩ := bind_eq_ok.1 h
    obtain ⟨q, hx, h⟩ := bind_eq_ok.1 h
    obtain ⟨r, hy, h⟩ := bind_eq_ok.1 h
    obtain ⟨s, hz, h⟩ := bind_eq_ok.1 h
    obtain ⟨bytes, hrest, -⟩ := bind_eq_ok.1 h
    refine List.forall_mem_cons.2 ⟨writes_of_valueAt hw, ?_⟩
    refine List.forall_mem_cons.2 ⟨writes_of_valueAt hx, ?_⟩
    refine List.forall_mem_cons.2 ⟨writes_of_valueAt hy, ?_⟩
    exact List.forall_mem_cons.2 ⟨writes_of_valueAt hz, ih hrest⟩
  | case2 offset text hshort =>
    rw [decodeGroups] at h
    · exact writes_of_decodeTail h
    · exact hshort

lemma writes_of_decode {text : List UInt8} (h : decode a text = .ok bs) :
    ∀ b ∈ text, a.Writes b := by
  rw [decode] at h
  split at h
  · cases h
  · exact writes_of_decodeGroups h

lemma writes_of_decodeEither {text : List UInt8} (h : decodeEither text = .ok bs) :
    ∀ b ∈ text, standard.Writes b ∨ urlSafe.Writes b := by
  rw [decodeEither] at h
  split at h
  · rename_i hd
    exact fun b hb => .inl (writes_of_decode hd b hb)
  · exact fun b hb => .inr (writes_of_decode h b hb)

/-! ### Two alphabets -/

variable {b : Alphabet}

lemma symbol_congr (hn : n < 64) (h : a.symbol n ≠ a.symbol62 ∧ a.symbol n ≠ a.symbol63) :
    a.symbol n = b.symbol n := by
  have hlt : n < 62 := by
    refine Nat.lt_of_not_le fun hle => ?_
    obtain rfl | rfl : n = 62 ∨ n = 63 := by omega
    · exact h.1 rfl
    · exact h.2 rfl
  simp only [Alphabet.symbol, if_pos hlt]

lemma encode_congr (h : ∀ x ∈ encode a bs, x ≠ a.symbol62 ∧ x ≠ a.symbol63) :
    encode a bs = encode b bs := by
  induction bs using encode.induct with
  | case1 x y z rest ih =>
    have hx := x.toNat_lt
    have hy := y.toNat_lt
    have hz := z.toNat_lt
    simp only [encode, List.forall_mem_cons] at h ⊢
    obtain ⟨h1, h2, h3, h4, hrest⟩ := h
    rw [symbol_congr (b := b) (by omega) h1, symbol_congr (b := b) (by omega) h2,
      symbol_congr (b := b) (by omega) h3, symbol_congr (b := b) (by omega) h4, ih hrest]
  | case2 x y =>
    have hx := x.toNat_lt
    have hy := y.toNat_lt
    simp only [encode, List.forall_mem_cons] at h ⊢
    obtain ⟨h1, h2, h3, -⟩ := h
    rw [symbol_congr (b := b) (by omega) h1, symbol_congr (b := b) (by omega) h2,
      symbol_congr (b := b) (by omega) h3]
  | case3 x =>
    have hx := x.toNat_lt
    simp only [encode, List.forall_mem_cons] at h ⊢
    obtain ⟨h1, h2, -⟩ := h
    rw [symbol_congr (b := b) (by omega) h1, symbol_congr (b := b) (by omega) h2]
  | case4 => rfl

lemma decodeEither_encode_standard (bs : List UInt8) :
    decodeEither (encode standard bs) = .ok bs := by
  rw [decodeEither, decode_encode isReadable_standard]

/-- The standard alphabet does not get in the way of the other: it either refuses a text of it, or
reads the same bytes. -/
lemma decodeEither_encode_urlSafe (bs : List UInt8) :
    decodeEither (encode urlSafe bs) = .ok bs := by
  rw [decodeEither]
  rcases hd : decode standard (encode urlSafe bs) with f | bytes
  · exact decode_encode isReadable_urlSafe bs
  · have hforeign : ¬ standard.Writes urlSafe.symbol62 ∧ ¬ standard.Writes urlSafe.symbol63 := by
      rw [Alphabet.Writes, Alphabet.Writes]
      decide
    have hsame : encode urlSafe bs = encode standard bs := by
      refine encode_congr fun x hx => ?_
      have hwrites := writes_of_decode hd x hx
      exact ⟨fun e => hforeign.1 (e ▸ hwrites), fun e => hforeign.2 (e ▸ hwrites)⟩
    rw [hsame, decode_encode isReadable_standard] at hd
    exact hd.symm

end RegistrySync.Base64
