import RegistrySync.Json.Document
import RegistrySync.Proofs.Json.Numeral
import RegistrySync.Proofs.Json.Quotation

/-!
The tokens of a printed value.

The text of a value falls into the tokens that it was put together from, whatever follows it, unless
that goes on with a numeral at its end.
-/

namespace RegistrySync.Json

open Text

/-- A value whose numbers are whole and have 64 bits. -/
inductive IsWhole : Json → Prop
  | null : IsWhole .null
  | flag (b : Bool) : IsWhole (.flag b)
  | word {n : Nat} (h : n < Numeral.wordLimit) : IsWhole (.number (.natural n))
  | text (s : String) : IsWhole (.text s)
  | list {items : List Json} (h : ∀ j ∈ items, IsWhole j) : IsWhole (.list items)
  | record {members : List (String × Json)} (h : ∀ m ∈ members, IsWhole m.2) :
    IsWhole (.record members)

variable {n : Nat} {b : UInt8} {t : Token} {bs rest : List UInt8} {text : String} {j : Json}
  {items : List Json} {members : List (String × Json)} {ts : List Token}

/-! ### Tokens -/

def Token.ofText (s : String) : Token := .text ⟨.ok s, none⟩

mutual

def tokens : Json → List Token
  | .null => [.null]
  | .flag b => [.flag b]
  | .number n => [.number ⟨.ok n, none⟩]
  | .text s => [.ofText s]
  | .list items => .openList :: ([.comma].intercalate (itemTokens items) ++ [.closeList])
  | .record members =>
    .openRecord :: ([.comma].intercalate (memberTokens members) ++ [.closeRecord])

def itemTokens : List Json → List (List Token)
  | [] => []
  | j :: rest => j.tokens :: itemTokens rest

def memberTokens : List (String × Json) → List (List Token)
  | [] => []
  | (name, j) :: rest => (.ofText name :: .colon :: j.tokens) :: memberTokens rest

end

lemma scan_cons (hb : Token.isSpace b = false) (h : Token.next b bs = (t, rest)) :
    Token.scan (b :: bs) = t :: Token.scan rest := by
  rw [Token.scan, if_neg (by simp [hb]), h]

lemma scan_text (s : String) :
    Token.scan (Utf8.encode (printText s) ++ rest) = .ofText s :: Token.scan rest := by
  have hbytes : Utf8.encode (printText s) ++ rest =
      quote :: (s.toList.flatMap escapeBytes ++ quote :: rest) := by
    rw [encode_printText, List.cons_append, List.append_assoc]
    rfl
  have hsign : Token.sign? quote = none := rfl
  rw [hbytes]
  refine scan_cons rfl ?_
  rw [Token.next, hsign]
  dsimp only
  rw [if_pos rfl, readQuotation_escapes]
  rfl

lemma encode_append (s s' : String) :
    Utf8.encode (s ++ s') = Utf8.encode s ++ Utf8.encode s' := by
  simp [Utf8.encode]

/-- A text of one byte that is a structural sign. No numeral goes on with it. -/
def IsSign (text : String) (t : Token) : Prop :=
  ∃ b, Utf8.encode text = [b] ∧ Token.isSpace b = false ∧ Token.sign? b = some t ∧
    isDigit b = false ∧ b ≠ 46 ∧ b ≠ 101 ∧ b ≠ 69

lemma isSign_comma : IsSign "," .comma := ⟨44, rfl, rfl, rfl, by decide⟩

lemma isSign_colon : IsSign ":" .colon := ⟨58, rfl, rfl, rfl, by decide⟩

lemma IsSign.scan (h : IsSign text t) :
    Token.scan (Utf8.encode text ++ rest) = t :: Token.scan rest := by
  obtain ⟨b, htext, hb, ht, -⟩ := h
  rw [htext]
  refine scan_cons hb ?_
  rw [Token.next, ht]
  rfl

lemma IsSign.endsNumeral (h : IsSign text t) : EndsNumeral (Utf8.encode text ++ rest) := by
  obtain ⟨b, htext, -, -, hb⟩ := h
  rw [htext]
  exact endsNumeral_cons hb

lemma next_digit (hb : isDigit b = true) (bs : List UInt8) :
    Token.isSpace b = false ∧
      Token.next b bs = (.number (readNumber (b :: bs)).1, (readNumber (b :: bs)).2) := by
  have hne (x : UInt8) (hx : isDigit x = false) : b ≠ x := by
    rintro rfl
    exact absurd (hb.symm.trans hx) (by decide)
  have hsign : Token.sign? b = none := by
    rw [Token.sign?, if_neg (hne 91 rfl), if_neg (hne 93 rfl), if_neg (hne 123 rfl),
      if_neg (hne 125 rfl), if_neg (hne 44 rfl), if_neg (hne 58 rfl)]
  constructor
  · simp [Token.isSpace, hne 32 rfl, hne 10 rfl, hne 9 rfl, hne 13 rfl]
  · rw [Token.next, hsign]
    dsimp only
    rw [if_neg (hne quote rfl), if_pos (.inr hb)]

/-- A text falls into the tokens, whatever follows it. -/
def Scans (text : String) (ts : List Token) : Prop :=
  ∀ rest, EndsNumeral rest → Token.scan (Utf8.encode text ++ rest) = ts ++ Token.scan rest

lemma scans_number (hn : n < Numeral.wordLimit) :
    Scans (toString n) [.number ⟨.ok (.natural n), none⟩] := by
  intro rest hrest
  have hread := readNumber_decimal (isDecimal_toString n) hn hrest
  obtain ⟨hdigits, -, b, more, hbytes, -⟩ := isDecimal_toString n
  rw [hbytes] at hdigits hread ⊢
  obtain ⟨hspace, hnext⟩ := next_digit (hdigits b List.mem_cons_self) (more ++ rest)
  rw [List.cons_append] at hread ⊢
  rw [hread] at hnext
  exact scan_cons hspace hnext

lemma scans_join {texts : List String} {tss : List (List Token)}
    (h : List.Forall₂ Scans texts tss) : Scans (joinWith "," texts) ([.comma].intercalate tss) := by
  induction h with
  | nil => exact fun rest _ => rfl
  | @cons text ts texts tss htext htexts ih =>
    cases htexts with
    | nil =>
      rw [List.intercalate_singleton]
      exact htext
    | @cons text' ts' texts tss htext' htexts =>
      -- what follows the first text is a comma, which ends a numeral
      intro rest hrest
      have hjoin : joinWith "," (text :: text' :: texts) =
          text ++ "," ++ joinWith "," (text' :: texts) := String.intercalate_cons_cons
      rw [hjoin, encode_append, encode_append, List.append_assoc, List.append_assoc,
        htext _ isSign_comma.endsNumeral, isSign_comma.scan, ih rest hrest,
        List.intercalate_cons_cons, List.append_assoc, List.append_assoc]
      rfl

lemma scans_enclosed {opening closing : String} {t' : Token} (hopening : IsSign opening t)
    (hclosing : IsSign closing t') (h : Scans text ts) :
    Scans (opening ++ text ++ closing) (t :: (ts ++ [t'])) := by
  intro rest _
  rw [encode_append, encode_append, List.append_assoc, List.append_assoc, hopening.scan,
    h _ hclosing.endsNumeral, hclosing.scan, List.cons_append, List.append_assoc]
  rfl

lemma forall₂_items (h : ∀ j ∈ items, Scans j.print j.tokens) :
    List.Forall₂ Scans (printItems items) (itemTokens items) := by
  induction items with
  | nil => exact .nil
  | cons j items ih =>
    obtain ⟨hj, hitems⟩ := List.forall_mem_cons.1 h
    exact .cons hj (ih hitems)

lemma forall₂_members (h : ∀ m ∈ members, Scans m.2.print m.2.tokens) :
    List.Forall₂ Scans (printMembers members) (memberTokens members) := by
  induction members with
  | nil => exact .nil
  | cons m members ih =>
    obtain ⟨hm, hmembers⟩ := List.forall_mem_cons.1 h
    refine .cons (fun rest hrest => ?_) (ih hmembers)
    rw [encode_append, encode_append, List.append_assoc, List.append_assoc, scan_text,
      isSign_colon.scan, hm rest hrest]
    rfl

/-- **The text of a value falls into its tokens.** -/
lemma scans_print (h : IsWhole j) : Scans j.print j.tokens := by
  induction h with
  | null => exact fun rest _ => scan_cons rfl rfl
  | flag b =>
    cases b with
    | false => exact fun rest _ => scan_cons rfl rfl
    | true => exact fun rest _ => scan_cons rfl rfl
  | word hn => exact scans_number hn
  | text s => exact fun rest _ => scan_text s
  | list h ih =>
    have hopening : IsSign "[" .openList := ⟨91, rfl, rfl, rfl, by decide⟩
    have hclosing : IsSign "]" .closeList := ⟨93, rfl, rfl, rfl, by decide⟩
    exact scans_enclosed hopening hclosing (scans_join (forall₂_items ih))
  | record h ih =>
    have hopening : IsSign "\x7b" .openRecord := ⟨123, rfl, rfl, rfl, by decide⟩
    have hclosing : IsSign "\x7d" .closeRecord := ⟨125, rfl, rfl, rfl, by decide⟩
    exact scans_enclosed hopening hclosing (scans_join (forall₂_members ih))

end RegistrySync.Json
