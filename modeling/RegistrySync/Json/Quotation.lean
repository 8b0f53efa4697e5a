import RegistrySync.Json.Reading
import RegistrySync.Text.Utf8

/-!
Text in quotation marks as it stands in JSON.

`content` reads up to the closing mark for use, `pass` only looks for that mark. Code units
beyond the basic plane are written as two escapes, which have to stand in pairs where the text is
used. Bytes are joined before they are read as UTF-8.
-/

namespace RegistrySync.Json

def quote : UInt8 := 34
def backslash : UInt8 := 92
def letterU : UInt8 := 117

/-- The byte that a short escape stands for. -/
def shortEscape (b : UInt8) : Option UInt8 :=
  if b = quote ∨ b = backslash ∨ b = 47 then some b
  else if b = 98 then some 8
  else if b = 102 then some 12
  else if b = 110 then some 10
  else if b = 114 then some 13
  else if b = 116 then some 9
  else none

def hexValue? (b : UInt8) : Option Nat :=
  if 48 ≤ b ∧ b ≤ 57 then some (b.toNat - 48)
  else if 97 ≤ b ∧ b ≤ 102 then some (b.toNat - 87)
  else if 65 ≤ b ∧ b ≤ 70 then some (b.toNat - 55)
  else none

/-- The code unit of four hexadecimal digits. -/
def codeUnit? (a b c d : UInt8) : Option Nat := do
  let a ← hexValue? a
  let b ← hexValue? b
  let c ← hexValue? c
  let d ← hexValue? d
  return ((a * 16 + b) * 16 + c) * 16 + d

def isLeading (n : Nat) : Bool := 0xD800 ≤ n && n ≤ 0xDBFF

def isTrailing (n : Nat) : Bool := 0xDC00 ≤ n && n ≤ 0xDFFF

/-- The bytes of a code point. -/
def codePointBytes (n : Nat) : List UInt8 := String.utf8EncodeChar (Char.ofNat n)

/-- The code point of two paired code units. -/
def paired (leading trailing : Nat) : Nat :=
  (leading - 0xD800) * 0x400 + (trailing - 0xDC00) + 0x10000

/-- The bytes of the text up to the closing mark. -/
def contentBytes : List UInt8 → Except Fault (List UInt8)
  | [] => .error .endInText
  | b :: rest =>
    if b = quote then .ok []
    else if b = backslash then
      match rest with
      | [] => .error .endInText
      | e :: rest =>
        if e = letterU then
          match rest with
          | h₁ :: h₂ :: h₃ :: h₄ :: rest =>
            match codeUnit? h₁ h₂ h₃ h₄ with
            | none => .error .invalidEscape
            | some n =>
              if isTrailing n then .error .loneSurrogate
              else if isLeading n then
                match rest with
                | [] => .error .endInText
                | x :: rest =>
                  if x ≠ backslash then .error .unfinishedEscape
                  else match rest with
                    | [] => .error .endInText
                    | y :: rest =>
                      if y ≠ letterU then .error .unfinishedEscape
                      else match rest with
                        | k₁ :: k₂ :: k₃ :: k₄ :: rest =>
                          match codeUnit? k₁ k₂ k₃ k₄ with
                          | none => .error .invalidEscape
                          | some m =>
                            if isTrailing m then
                              (contentBytes rest).map (codePointBytes (paired n m) ++ ·)
                            else .error .loneSurrogate
                        | _ => .error .endInText
              else (contentBytes rest).map (codePointBytes n ++ ·)
          | _ => .error .endInText
        else match shortEscape e with
          | none => .error .invalidEscape
          | some c => (contentBytes rest).map (c :: ·)
    else if b < 0x20 then .error .controlCharacter
    else (contentBytes rest).map (b :: ·)

/-- What follows the closing mark. -/
def pass : List UInt8 → Except Fault (List UInt8)
  | [] => .error .endInText
  | b :: rest =>
    if b = quote then .ok rest
    else if b = backslash then
      match rest with
      | [] => .error .endInText
      | e :: rest =>
        if e = letterU then
          match rest with
          | h₁ :: h₂ :: h₃ :: h₄ :: rest =>
            if (codeUnit? h₁ h₂ h₃ h₄).isSome then pass rest else .error .invalidEscape
          | _ => .error .endInText
        else if (shortEscape e).isSome then pass rest else .error .invalidEscape
    else if b < 0x20 then .error .controlCharacter
    else pass rest

def content (bs : List UInt8) : Except Fault String := do
  match Text.Utf8.decode (← contentBytes bs) with
  | .ok s => return s
  | .error _ => throw .invalidCodePoint

/-- The text behind an opening mark, and what follows its closing mark. -/
def readQuotation (bs : List UInt8) : Reading String × List UInt8 :=
  match pass bs with
  | .ok rest => (⟨content bs, none⟩, rest)
  | .error f => (⟨content bs, some f⟩, [])

theorem length_pass {bs rest : List UInt8} (h : pass bs = .ok rest) :
    rest.length < bs.length := by
  fun_induction pass bs <;> simp_all <;> omega

end RegistrySync.Json
