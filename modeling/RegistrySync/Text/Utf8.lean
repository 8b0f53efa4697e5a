/-!
UTF-8, read strictly and leniently.

`piece` reads one character off a byte sequence or says how many bytes of it can not belong to
one. The strict reader stops there and tells the place; the lenient reader puts the replacement
character in place of each such part and goes on.
-/

namespace RegistrySync.Text.Utf8

/-- What a non-empty byte sequence starts with. -/
inductive Piece where
  | char (c : Char) (rest : List UInt8)
  /-- `size` bytes that start no character, whatever follows. -/
  | invalid (size : Nat) (rest : List UInt8)
  /-- The sequence ends inside a character. -/
  | incomplete

def isTail (b : UInt8) : Bool := 0x80 ≤ b && b ≤ 0xBF

/-- The second bytes allowed after `a`, which narrow out overlong forms and surrogates. -/
def isSecond (a b : UInt8) : Bool :=
  if a == 0xE0 then 0xA0 ≤ b && b ≤ 0xBF
  else if a == 0xED then 0x80 ≤ b && b ≤ 0x9F
  else if a == 0xF0 then 0x90 ≤ b && b ≤ 0xBF
  else if a == 0xF4 then 0x80 ≤ b && b ≤ 0x8F
  else isTail b

def bits (b : UInt8) (n : Nat) : Nat := b.toNat % n

def piece (a : UInt8) (rest : List UInt8) : Piece :=
  if a < 0x80 then .char (Char.ofNat a.toNat) rest
  else if 0xC2 ≤ a && a ≤ 0xDF then
    match rest with
    | [] => .incomplete
    | b :: r =>
      if isTail b then .char (Char.ofNat (bits a 32 * 64 + bits b 64)) r else .invalid 1 rest
  else if 0xE0 ≤ a && a ≤ 0xEF then
    match rest with
    | [] => .incomplete
    | b :: r =>
      if isSecond a b then
        match r with
        | [] => .incomplete
        | c :: r' =>
          if isTail c then
            .char (Char.ofNat ((bits a 16 * 64 + bits b 64) * 64 + bits c 64)) r'
          else .invalid 2 r
      else .invalid 1 rest
  else if 0xF0 ≤ a && a ≤ 0xF4 then
    match rest with
    | [] => .incomplete
    | b :: r =>
      if isSecond a b then
        match r with
        | [] => .incomplete
        | c :: r' =>
          if isTail c then
            match r' with
            | [] => .incomplete
            | d :: r'' =>
              if isTail d then
                .char (Char.ofNat
                  (((bits a 8 * 64 + bits b 64) * 64 + bits c 64) * 64 + bits d 64)) r''
              else .invalid 3 r'
          else .invalid 2 r
      else .invalid 1 rest
  else .invalid 1 rest

/-- What is left to read behind a piece. -/
def Piece.rest : Piece → List UInt8
  | .char _ rest => rest
  | .invalid _ rest => rest
  | .incomplete => []

theorem length_rest_piece (a : UInt8) (bs : List UInt8) :
    (piece a bs).rest.length ≤ bs.length := by
  unfold piece
  repeat' split
  all_goals simp only [Piece.rest, List.length_cons, List.length_nil]
  all_goals omega

theorem piece_char_length {a : UInt8} {bs rest : List UInt8} {c : Char}
    (h : piece a bs = .char c rest) : rest.length ≤ bs.length := by
  simpa [h, Piece.rest] using length_rest_piece a bs

theorem piece_invalid_length {a : UInt8} {bs rest : List UInt8} {n : Nat}
    (h : piece a bs = .invalid n rest) : rest.length ≤ bs.length := by
  simpa [h, Piece.rest] using length_rest_piece a bs

/-- Why a byte sequence is no UTF-8. -/
inductive Fault where
  | invalid (size index : Nat)
  | incomplete (index : Nat)
  deriving DecidableEq, Repr

def Fault.message : Fault → String
  | .invalid size index => s!"invalid utf-8 sequence of {size} bytes from index {index}"
  | .incomplete index => s!"incomplete utf-8 byte sequence from index {index}"

/-- Strict reading; `total` is the length of the whole sequence, so that places can be told. -/
def decodeFrom (total : Nat) : List UInt8 → Except Fault (List Char)
  | [] => .ok []
  | a :: bs =>
    match _h : piece a bs with
    | .char c rest => (decodeFrom total rest).map (c :: ·)
    | .invalid n _ => .error (.invalid n (total - (bs.length + 1)))
    | .incomplete => .error (.incomplete (total - (bs.length + 1)))
termination_by bs => bs.length
decreasing_by
  have := piece_char_length _h
  simp only [List.length_cons]
  omega

def decode (bs : List UInt8) : Except Fault String :=
  (decodeFrom bs.length bs).map String.ofList

def replacement : Char := Char.ofNat 0xFFFD

def decodeLossyChars : List UInt8 → List Char
  | [] => []
  | a :: bs =>
    match _h : piece a bs with
    | .char c rest => c :: decodeLossyChars rest
    | .invalid _ rest => replacement :: decodeLossyChars rest
    | .incomplete => [replacement]
termination_by bs => bs.length
decreasing_by
  · have := piece_char_length _h
    simp only [List.length_cons]
    omega
  · have := piece_invalid_length _h
    simp only [List.length_cons]
    omega

/-- Every part that is no character becomes one replacement character. -/
def decodeLossy (bs : List UInt8) : String := String.ofList (decodeLossyChars bs)

def encode (s : String) : List UInt8 := s.toList.flatMap String.utf8EncodeChar

end RegistrySync.Text.Utf8
