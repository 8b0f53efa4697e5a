import RegistrySync.Credential
import RegistrySync.Proofs.Base64
import RegistrySync.Proofs.Schema.Document
import RegistrySync.Proofs.Text.Cut
import RegistrySync.Proofs.Text.Utf8

/-!
Credentials are read back from their encoded form.

The encoded form is ASCII without blanks, so nothing is lost when it is trimmed; the fields that are
left out are the empty ones, which is what a missing field stands for.
-/

namespace RegistrySync.Credential

open Text

variable {c : Credential} {bs : List UInt8}

/-! ### The record -/

lemma isFaithful_field (name : String) : (field name).IsFaithful := by
  intro value hempty
  rw [String.isEmpty_iff.1 hempty]
  rfl

lemma isFaithful (depth : Nat) : schema.IsFaithful (depth + 1) :=
  ⟨by decide, ⟨isFaithful_field _, trivial, isFaithful_field _, trivial,
    isFaithful_field _, trivial, trivial⟩, fun _ => rfl⟩

lemma ofBytes_json (c : Credential) : schema.ofBytes (Utf8.encode c.json) = .ok c :=
  Schema.ofText_print (isFaithful 0) c

/-! ### The encoded form -/

def IsWritten (b : UInt8) : Prop := b.toNat < 0x80 ∧ isBlank (Char.ofNat b.toNat) = false

instance (b : UInt8) : Decidable (IsWritten b) := inferInstanceAs (Decidable (_ ∧ _))

lemma isWritten_encode {a : Base64.Alphabet} (ha : ∀ n < 64, IsWritten (a.symbol n)) {b : UInt8}
    (h : b ∈ Base64.encode a bs) : IsWritten b := by
  rcases Base64.mem_encode h with rfl | ⟨n, hn, rfl⟩
  · exact ⟨by decide, by decide⟩
  · exact ha n hn

lemma isWritten_standard : ∀ n < 64, IsWritten (Base64.standard.symbol n) := by decide

lemma isWritten_urlSafe : ∀ n < 64, IsWritten (Base64.urlSafe.symbol n) := by decide

lemma encode_ofAscii (h : ∀ b ∈ bs, IsWritten b) : Utf8.encode (ofAscii bs) = bs := by
  rw [Utf8.encode, ofAscii, String.toList_ofList]
  induction bs with
  | nil => rfl
  | cons b bs ih =>
    rw [List.map_cons, List.flatMap_cons, Utf8.utf8EncodeChar_ascii _ (h b List.mem_cons_self).1,
      ih fun x hx => h x (List.mem_cons_of_mem b hx), UInt8.ofNat_toNat]
    rfl

lemma trim_ofAscii (h : ∀ b ∈ bs, IsWritten b) : trim (ofAscii bs) = ofAscii bs := by
  have hchar (ch : Char) (hch : ch ∈ bs.map fun b => Char.ofNat b.toNat) : isBlank ch = false := by
    obtain ⟨b, hb, rfl⟩ := List.mem_map.1 hch
    exact (h b hb).2
  rw [trim, ofAscii, String.toList_ofList, trimBy_eq_self]
  · exact fun ch hch => hchar ch (List.mem_of_head? hch)
  · exact fun ch hch => hchar ch (List.mem_of_getLast? hch)

def encodeIn (a : Base64.Alphabet) (c : Credential) : String :=
  ofAscii (Base64.encode a (Utf8.encode c.json))

lemma decode_encodeIn {a : Base64.Alphabet} (ha : ∀ n < 64, IsWritten (a.symbol n))
    (hread : ∀ bs, Base64.decodeEither (Base64.encode a bs) = .ok bs) (c : Credential) :
    decode (c.encodeIn a) = .ok c := by
  have hwritten : ∀ b ∈ Base64.encode a (Utf8.encode c.json), IsWritten b :=
    fun _ hb => isWritten_encode ha hb
  rw [decode, encodeIn, trim_ofAscii hwritten, encode_ofAscii hwritten, hread]
  dsimp only
  rw [ofBytes_json]

lemma decode_encode (c : Credential) : decode c.encode = .ok c :=
  decode_encodeIn isWritten_standard Base64.decodeEither_encode_standard c

lemma decode_trim (encoded : String) : decode (trim encoded) = decode encoded := by
  rw [decode, decode, trim_trim]

lemma decode_surrounded {before after : String} (hb : onlyBlanks before) (ha : onlyBlanks after)
    (encoded : String) : decode (before ++ encoded ++ after) = decode encoded := by
  rw [← decode_trim, trim_surrounded hb ha, decode_trim]

lemma trim_encode (c : Credential) : trim c.encode = c.encode :=
  trim_ofAscii fun _ hb => isWritten_encode isWritten_standard hb

/-- **Credentials are read back.** Encoding, which can not fail, gives the record of a credential in
standard base64, and from that text the credential is read, as it is from the same record in the
other alphabet, whatever blanks surround the text. -/
theorem decode_either_alphabet (c : Credential) :
    Base64.decode Base64.standard (Utf8.encode c.encode) = .ok (Utf8.encode c.json) ∧
    ∀ before after, onlyBlanks before → onlyBlanks after →
      decode (before ++ c.encode ++ after) = .ok c ∧
      decode (before ++ c.encodeIn Base64.urlSafe ++ after) = .ok c := by
  refine ⟨?_, fun before after hb ha => ⟨?_, ?_⟩⟩
  · rw [encode, encode_ofAscii fun _ hb => isWritten_encode isWritten_standard hb]
    exact Base64.decode_encode Base64.isReadable_standard _
  · rw [decode_surrounded hb ha, decode_encode]
  · rw [decode_surrounded hb ha]
    exact decode_encodeIn isWritten_urlSafe Base64.decodeEither_encode_urlSafe c

/-- A password for which the alphabets differ, an empty field, and blanks of several kinds. -/
theorem decode_either_alphabet_blanks :
    let c : Credential := ⟨"a\"\\", "ÿ?>😀", ""⟩
    onlyBlanks "\n\u00a0" ∧ onlyBlanks "\u3000 " ∧
      c.encodeIn Base64.urlSafe ≠ c.encode ∧
      decode ("\n\u00a0" ++ c.encodeIn Base64.urlSafe ++ "\u3000 ") = .ok c := by
  intro c
  have hb : onlyBlanks "\n\u00a0" := by decide
  have ha : onlyBlanks "\u3000 " := by decide
  exact ⟨hb, ha, by decide +kernel, ((decode_either_alphabet c).2 _ _ hb ha).2⟩

/-! ### What is kept and sent -/

def isEncodedChar (ch : Char) : Bool := ch.isAlphanum || ch ∈ ['+', '/', '-', '_', '=']

lemma isEncodedChar_of_writes {b : UInt8}
    (h : Base64.standard.Writes b ∨ Base64.urlSafe.Writes b) :
    b.toNat < 0x80 ∧ isEncodedChar (Char.ofNat b.toNat) = true := by
  have hall : ∀ n < 256, (UInt8.ofNat n = Base64.pad ∨
      Base64.standard.isSymbol (UInt8.ofNat n) = true ∨
        Base64.urlSafe.isSymbol (UInt8.ofNat n) = true) →
      n < 0x80 ∧ isEncodedChar (Char.ofNat n) = true := by decide +kernel
  refine hall b.toNat b.toNat_lt ?_
  rw [UInt8.ofNat_toNat]
  rcases h with (h | h) | (h | h)
  · exact .inl h
  · exact .inr (.inl h)
  · exact .inl h
  · exact .inr (.inr h)

lemma isEncodedChar_of_decode {encoded : String} (h : decode encoded = .ok c) {ch : Char}
    (hch : ch ∈ (trim encoded).toList) : isEncodedChar ch = true := by
  rw [decode] at h
  rcases hd : Base64.decodeEither (Utf8.encode (trim encoded)) with f | bytes
  · rw [hd] at h
    cases h
  · obtain ⟨b, rest, hb, -⟩ := Utf8.piece_encode ch []
    have hfirst : b ∈ String.utf8EncodeChar ch := hb ▸ List.mem_cons_self
    have hmem : b ∈ Utf8.encode (trim encoded) := List.mem_flatMap.2 ⟨ch, hch, hfirst⟩
    obtain ⟨hascii, hencoded⟩ := isEncodedChar_of_writes (Base64.writes_of_decodeEither hd b hmem)
    rcases Utf8.mem_utf8EncodeChar hfirst with hsame | hbeyond
    · rwa [hsame, Char.ofNat_toNat] at hencoded
    · exact absurd hascii (Nat.not_lt.2 hbeyond)

/-- A kept credential that can be used: it is empty or can be read, and what is sent for it is a
text of base64. -/
structure IsUsable (auth : String) : Prop where
  decoded : auth = "" ∨ ∃ c, decode auth = .ok c
  sent_ne : headerValue auth ≠ ""
  sent : ∀ ch ∈ (headerValue auth).toList, isEncodedChar ch = true

lemma isUsable_of_trim {auth : String} (htrim : trim auth = auth)
    (h : onlyBlanks auth ∨ ∃ c, decode auth = .ok c) : IsUsable auth := by
  by_cases hb : onlyBlanks auth = true
  · have hempty : auth = "" := htrim.symm.trans (trim_of_onlyBlanks hb)
    rw [hempty]
    exact ⟨.inl rfl, by decide, List.all_eq_true.1 (by decide)⟩
  · obtain ⟨c, hc⟩ := h.resolve_left hb
    have hkept : headerValue auth = auth := if_neg hb
    refine ⟨.inr ⟨c, hc⟩, ?_, ?_⟩
    · rw [hkept]
      rintro rfl
      exact hb rfl
    · rw [hkept]
      intro ch hch
      rw [← htrim] at hch
      exact isEncodedChar_of_decode hc hch

lemma isUsable_encode (c : Credential) : IsUsable c.encode :=
  isUsable_of_trim (trim_encode c) (.inr ⟨c, decode_encode c⟩)

end RegistrySync.Credential
