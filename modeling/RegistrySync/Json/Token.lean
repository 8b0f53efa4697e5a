import RegistrySync.Json.Numeral
import RegistrySync.Json.Quotation

/-!
The parts of a JSON text.

Where a part begins decides what it is, so a text falls into tokens before anything is known of
its structure. The tokens end with the text or with the first part that no reader gets past.
-/

namespace RegistrySync.Json

inductive Token where
  | openList
  | closeList
  | openRecord
  | closeRecord
  | comma
  | colon
  | null
  | flag (b : Bool)
  | number (r : Reading Number)
  | text (r : Reading String)
  /-- Nothing that could stand in JSON. -/
  | broken (f : Fault)

namespace Token

def isSpace (b : UInt8) : Bool := b = 32 || b = 10 || b = 9 || b = 13

/-- The rest of a word that has to go on as given. -/
def word (letters : List UInt8) (token : Token) (bs : List UInt8) : Token × List UInt8 :=
  match letters, bs with
  | [], bs => (token, bs)
  | _ :: _, [] => (.broken .endInValue, [])
  | l :: ls, b :: bs => if l = b then word ls token bs else (.broken .expectedWord, [])

theorem length_word (letters : List UInt8) (token : Token) (bs : List UInt8) :
    (word letters token bs).2.length ≤ bs.length := by
  fun_induction word letters token bs <;> simp_all; omega

/-! The three words, behind their first letters. -/

def nullTail : List UInt8 := [117, 108, 108]
def trueTail : List UInt8 := [114, 117, 101]
def falseTail : List UInt8 := [97, 108, 115, 101]

/-- Structural signs. -/
def sign? (b : UInt8) : Option Token :=
  if b = 91 then some .openList
  else if b = 93 then some .closeList
  else if b = 123 then some .openRecord
  else if b = 125 then some .closeRecord
  else if b = 44 then some .comma
  else if b = 58 then some .colon
  else none

/-- The token that starts with `b`, and what follows it. -/
def next (b : UInt8) (bs : List UInt8) : Token × List UInt8 :=
  match sign? b with
  | some t => (t, bs)
  | none =>
    if b = quote then
      let (r, rest) := readQuotation bs
      (.text r, rest)
    else if b = 45 ∨ isDigit b then
      let (r, rest) := readNumber (b :: bs)
      (.number r, rest)
    else if b = 110 then word nullTail .null bs
    else if b = 116 then word trueTail (.flag true) bs
    else if b = 102 then word falseTail (.flag false) bs
    else (.broken .expectedValue, [])

theorem length_readQuotation (bs : List UInt8) : (readQuotation bs).2.length ≤ bs.length := by
  unfold readQuotation
  cases h : pass bs with
  | ok rest => exact Nat.le_of_lt (length_pass h)
  | error f => simp

theorem length_next (b : UInt8) (bs : List UInt8) : (next b bs).2.length ≤ bs.length := by
  unfold next
  split
  · exact Nat.le_refl _
  · split
    · exact length_readQuotation bs
    · split
      · exact length_readNumber b bs
      · split
        · exact length_word _ _ _
        · split
          · exact length_word _ _ _
          · split
            · exact length_word _ _ _
            · simp

/-- The tokens of a text. -/
def scan : List UInt8 → List Token
  | [] => []
  | b :: bs =>
    if isSpace b then scan bs
    else (next b bs).1 :: scan (next b bs).2
termination_by bs => bs.length
decreasing_by
  · simp
  · have := length_next b bs
    simp only [List.length_cons]
    omega

end Token

end RegistrySync.Json
