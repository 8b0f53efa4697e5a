import RegistrySync.Proofs.Json.Print

/-!
The document of a value.

The tokens of a value make up a document that has each part of the value in its place and nothing
that would keep a reader from it.
-/

namespace RegistrySync.Json

open Text

variable {n : Nat} {j : Json} {d : Document} {is : Items} {ms : Members} {items : List Json}
  {members : List (String × Json)} {ts ts' us : List Token}

mutual

/-- The document that the text of a value has. -/
def toDocument : Json → Document
  | .null => .null
  | .flag b => .flag b
  | .number n => .number ⟨.ok n, none⟩
  | .text s => .text ⟨.ok s, none⟩
  | .list items => .list (toItems items)
  | .record members => .record (toMembers members)

def toItems : List Json → Items
  | [] => .stop .closed
  | j :: rest => .item j.toDocument (toItems rest)

def toMembers : List (String × Json) → Members
  | [] => .stop .closed
  | (name, j) :: rest => .member ⟨.ok name, none⟩ j.toDocument (toMembers rest)

end

/-! ### Passing over -/

mutual

theorem obstacle_toDocument : (j : Json) → j.toDocument.obstacle = none
  | .null => rfl
  | .flag _ => rfl
  | .number _ => rfl
  | .text _ => rfl
  | .list items => obstacle_toItems items
  | .record members => obstacle_toMembers members

theorem obstacle_toItems : (items : List Json) → (toItems items).obstacle = none
  | [] => rfl
  | j :: rest => by
    rw [toItems, Items.obstacle, obstacle_toDocument j, obstacle_toItems rest]
    rfl

theorem obstacle_toMembers : (members : List (String × Json)) → (toMembers members).obstacle = none
  | [] => rfl
  | (name, j) :: rest => by
    rw [toMembers, Members.obstacle, obstacle_toDocument j, obstacle_toMembers rest]
    rfl

end

/-! ### Items and members of a text -/

def StartsItem (ts : List Token) : Prop := ∃ t more, ts = t :: more ∧ t ≠ .closeList

def StartsMember (ts : List Token) : Prop := ∃ name more, ts = .ofText name :: more

lemma StartsItem.append (h : StartsItem ts) (ts' : List Token) : StartsItem (ts ++ ts') := by
  obtain ⟨t, more, rfl, ht⟩ := h
  exact ⟨t, more ++ ts', rfl, ht⟩

lemma StartsMember.append (h : StartsMember ts) (ts' : List Token) : StartsMember (ts ++ ts') := by
  obtain ⟨name, more, rfl⟩ := h
  exact ⟨name, more ++ ts', rfl⟩

lemma startsItem_tokens (j : Json) : StartsItem j.tokens := by
  cases j <;> exact ⟨_, _, rfl, nofun⟩

lemma startsItem_items (j : Json) (items : List Json) :
    StartsItem ([Token.comma].intercalate (itemTokens (j :: items))) := by
  obtain ⟨t, more, hj, ht⟩ := startsItem_tokens j
  rw [itemTokens, hj, List.intercalate_cons_cons_left]
  exact ⟨t, _, rfl, ht⟩

lemma startsMember_members (m : String × Json) (members : List (String × Json)) :
    StartsMember ([Token.comma].intercalate (memberTokens (m :: members))) := by
  rw [memberTokens, List.intercalate_cons_cons_left]
  exact ⟨m.1, _, rfl⟩

lemma itemTokens_cons_cons (j j' : Json) (items : List Json) :
    [Token.comma].intercalate (itemTokens (j :: j' :: items)) =
      j.tokens ++ .comma :: [Token.comma].intercalate (itemTokens (j' :: items)) := by
  rw [itemTokens, itemTokens, List.intercalate_cons_cons, List.append_assoc]
  rfl

lemma memberTokens_cons_cons (m m' : String × Json) (members : List (String × Json)) :
    [Token.comma].intercalate (memberTokens (m :: m' :: members)) =
      .ofText m.1 :: .colon :: (m.2.tokens ++
        .comma :: [Token.comma].intercalate (memberTokens (m' :: members))) := by
  rw [memberTokens, memberTokens, List.intercalate_cons_cons, List.append_assoc]
  rfl

/-! ### Taking tokens -/

lemma take_list (hts : StartsItem ts) (h : Items.take n ts = (is, ts')) :
    Document.take (n + 1) (.openList :: ts) = (.list is, ts') := by
  obtain ⟨t, more, rfl, ht⟩ := hts
  have htake : Document.take (n + 1) (.openList :: t :: more) =
      (.list (Items.take n (t :: more)).1, (Items.take n (t :: more)).2) := by
    cases t <;> first | rfl | exact absurd rfl ht
  rw [htake, h]

lemma take_record (hts : StartsMember ts) (h : Members.take n ts = (ms, ts')) :
    Document.take (n + 1) (.openRecord :: ts) = (.record ms, ts') := by
  obtain ⟨name, more, rfl⟩ := hts
  have htake : Document.take (n + 1) (.openRecord :: .ofText name :: more) =
      (.record (Members.take n (.ofText name :: more)).1,
        (Members.take n (.ofText name :: more)).2) := rfl
  rw [htake, h]

lemma take_last_item (h : Document.take n ts = (d, .closeList :: ts')) :
    Items.take (n + 1) ts = (.item d (.stop .closed), ts') := by
  rw [Items.take, h]

lemma take_item (h : Document.take n ts = (d, .comma :: us)) (hus : StartsItem us)
    (hrest : Items.take n us = (is, ts')) : Items.take (n + 1) ts = (.item d is, ts') := by
  obtain ⟨t, more, rfl, ht⟩ := hus
  have htake : Items.take (n + 1) ts =
      (.item d (Items.take n (t :: more)).1, (Items.take n (t :: more)).2) := by
    rw [Items.take, h]
    cases t <;> first | rfl | exact absurd rfl ht
  rw [htake, hrest]

lemma take_last_member (name : String) (h : Document.take n ts = (d, .closeRecord :: ts')) :
    Members.take (n + 1) (.ofText name :: .colon :: ts) =
      (.member ⟨.ok name, none⟩ d (.stop .closed), ts') := by
  rw [Members.take.eq_def, Token.ofText]
  dsimp only
  rw [h]

lemma take_member (name : String) (h : Document.take n ts = (d, .comma :: us))
    (hus : StartsMember us) (hrest : Members.take n us = (ms, ts')) :
    Members.take (n + 1) (.ofText name :: .colon :: ts) =
      (.member ⟨.ok name, none⟩ d ms, ts') := by
  obtain ⟨name', more, rfl⟩ := hus
  rw [Members.take.eq_def, Token.ofText]
  dsimp only
  rw [h]
  dsimp only [Token.ofText]
  rw [← Token.ofText, hrest]

/-- The tokens of a value are taken for its document, and no others. Every second call takes a
token. -/
def IsTaken (j : Json) : Prop :=
  ∀ n ts, 2 * j.tokens.length ≤ n → Document.take n (j.tokens ++ ts) = (j.toDocument, ts)

lemma take_items (h : ∀ j ∈ items, IsTaken j) (hne : items ≠ []) (ts : List Token)
    (hn : 2 * ([Token.comma].intercalate (itemTokens items)).length ≤ n) :
    Items.take (n + 1) ([Token.comma].intercalate (itemTokens items) ++ .closeList :: ts) =
      (toItems items, ts) := by
  induction items generalizing n with
  | nil => exact absurd rfl hne
  | cons j items ih =>
    obtain ⟨hj, hitems⟩ := List.forall_mem_cons.1 h
    rcases items with _ | ⟨j', items⟩
    · rw [itemTokens, itemTokens, List.intercalate_singleton] at hn ⊢
      exact take_last_item (hj n _ hn)
    · -- the item and the items after its comma are taken under one bound; the comma pays for both
      rw [itemTokens_cons_cons] at hn ⊢
      rw [List.length_append, List.length_cons] at hn
      obtain ⟨n, rfl⟩ : ∃ k, n = k + 1 := ⟨n - 1, by omega⟩
      rw [List.append_assoc]
      exact take_item (hj (n + 1) _ (by omega)) ((startsItem_items j' items).append _)
        (ih hitems (List.cons_ne_nil j' items) (by omega))

lemma take_members (h : ∀ m ∈ members, IsTaken m.2) (hne : members ≠ []) (ts : List Token)
    (hn : 2 * ([Token.comma].intercalate (memberTokens members)).length ≤ n) :
    Members.take (n + 1) ([Token.comma].intercalate (memberTokens members) ++ .closeRecord :: ts) =
      (toMembers members, ts) := by
  induction members generalizing n with
  | nil => exact absurd rfl hne
  | cons m members ih =>
    obtain ⟨hm, hmembers⟩ := List.forall_mem_cons.1 h
    rcases members with _ | ⟨m', members⟩
    · rw [memberTokens, memberTokens, List.intercalate_singleton] at hn ⊢
      rw [List.length_cons, List.length_cons] at hn
      exact take_last_member m.1 (hm n _ (by omega))
    · rw [memberTokens_cons_cons] at hn ⊢
      rw [List.length_cons, List.length_cons, List.length_append, List.length_cons] at hn
      obtain ⟨n, rfl⟩ : ∃ k, n = k + 1 := ⟨n - 1, by omega⟩
      rw [List.cons_append, List.cons_append, List.append_assoc]
      exact take_member m.1 (hm (n + 1) _ (by omega)) ((startsMember_members m' members).append _)
        (ih hmembers (List.cons_ne_nil m' members) (by omega))

lemma isTaken (h : IsWhole j) : IsTaken j := by
  induction h with
  | null | flag b | word hn | text s =>
    intro n ts hlength
    obtain ⟨n, rfl⟩ : ∃ k, n = k + 1 := ⟨n - 1, by simp [tokens] at hlength; omega⟩
    rfl
  | @list items h ih =>
    intro n ts hlength
    rw [tokens] at hlength ⊢
    rw [List.length_cons, List.length_append, List.length_singleton] at hlength
    -- the brackets pay for the step into the list and the step to its first item
    obtain ⟨n, rfl⟩ : ∃ k, n = k + 2 := ⟨n - 2, by omega⟩
    rw [List.cons_append, List.append_assoc, List.singleton_append]
    rcases items with _ | ⟨j, items⟩
    · rfl
    · exact take_list ((startsItem_items j items).append _)
        (take_items ih (List.cons_ne_nil j items) ts (by omega))
  | @record members h ih =>
    intro n ts hlength
    rw [tokens] at hlength ⊢
    rw [List.length_cons, List.length_append, List.length_singleton] at hlength
    obtain ⟨n, rfl⟩ : ∃ k, n = k + 2 := ⟨n - 2, by omega⟩
    rw [List.cons_append, List.append_assoc, List.singleton_append]
    rcases members with _ | ⟨m, members⟩
    · rfl
    · exact take_record ((startsMember_members m members).append _)
        (take_members ih (List.cons_ne_nil m members) ts (by omega))

/-- **The text of a value has the document of the value**, and nothing follows it. -/
lemma parse_print (h : IsWhole j) :
    Document.parse (Utf8.encode j.print) = (j.toDocument, false) := by
  have hscan : Token.scan (Utf8.encode j.print) = j.tokens := by
    have hnil : Token.scan [] = [] := by rw [Token.scan]
    have hall := scans_print h [] endsNumeral_nil
    rwa [hnil, List.append_nil, List.append_nil] at hall
  have htake := isTaken h (2 * j.tokens.length + 1) [] (by omega)
  rw [List.append_nil] at htake
  rw [Document.parse, hscan]
  dsimp only
  rw [htake]
  rfl

end RegistrySync.Json
