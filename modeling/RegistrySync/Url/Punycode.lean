/-!
Names with letters beyond ASCII, written in ASCII.

The ASCII characters of a name come first. Behind a hyphen follows where the others have to be put
in, in the order of their numbers: each as the number of steps to it, a step being a place in the
name or, behind the last place, the next character. The digits of such a number say themselves
where it ends, by thresholds that follow the sizes of the numbers so far.
-/

namespace RegistrySync.Url.Punycode

def base : Nat := 36

/-- The first character that is put in. -/
def firstNumber : Nat := 0x80

def firstBias : Nat := 72

/-- Small letters stand for the first digits, then the digits. -/
def digitChar (d : Nat) : Char := Char.ofNat (if d < 26 then 97 + d else 22 + d)

def digit? (c : Char) : Option Nat :=
  if c.isLower then some (c.toNat - 97)
  else if c.isDigit then some (c.toNat - 22)
  else none

/-- Digits below this end a number at a position. -/
def threshold (position bias : Nat) : Nat := min 26 (max 1 (position - bias))

theorem threshold_pos (position bias : Nat) : 0 < threshold position bias := by
  unfold threshold
  omega

/-- Brings a number of steps down to a bias; `offset` grows by one base for every division. -/
def settle (steps offset : Nat) : Nat :=
  if 455 < steps then settle (steps / 35) (offset + base)
  else offset + base * steps / (steps + 38)
termination_by steps

/-- The bias behind a number of steps, with `size` characters in the name. -/
def adapt (steps size : Nat) (isFirst : Bool) : Nat :=
  let steps := if isFirst then steps / 700 else steps / 2
  settle (steps + steps / size) 0

/-- The digits of a number, from a position on. -/
def digits (bias position n : Nat) : List Char :=
  let t := threshold position bias
  if n < t then [digitChar n]
  else digitChar (t + (n - t) % (base - t)) :: digits bias (position + base) ((n - t) / (base - t))
termination_by n
decreasing_by
  have := threshold_pos position bias
  exact Nat.lt_of_le_of_lt (Nat.div_le_self _ _) (by omega)

/-- What is written so far. -/
structure Written where
  text : List Char
  /-- Steps since the character that was put in last. -/
  steps : Nat
  bias : Nat
  /-- Characters in the name. -/
  size : Nat

/-- Passes a place where the character `n` may have to be put in. -/
def pass (basics n : Nat) (w : Written) (c : Char) : Written :=
  if c.toNat < n then { w with steps := w.steps + 1 }
  else if c.toNat = n then
    ⟨w.text ++ digits w.bias base w.steps, 0, adapt w.steps (w.size + 1) (w.size == basics),
      w.size + 1⟩
  else w

/-- The numbers of characters beyond ASCII, each once and in order. -/
def numbers (cs : List Char) : List Nat :=
  let ns := (cs.map Char.toNat).filter (firstNumber ≤ ·)
  (ns.mergeSort (· ≤ ·)).eraseDups

def isBasic (c : Char) : Bool := c.toNat < firstNumber

/-- Puts in the characters `ns`; `next` is the first that has not been passed. -/
def putAll (name : List Char) (basics : Nat) : (ns : List Nat) → (next : Nat) → Written → List Char
  | [], _, w => w.text
  | n :: ns, next, w =>
    let w := { w with steps := w.steps + (n - next) * (w.size + 1) }
    let w := name.foldl (pass basics n) w
    putAll name basics ns (n + 1) { w with steps := w.steps + 1 }

/-- The ASCII form of a name. -/
def encode (name : List Char) : List Char :=
  let basic := name.filter isBasic
  let head := if basic.isEmpty then [] else basic ++ ['-']
  head ++ putAll name basic.length (numbers name) firstNumber ⟨[], 0, firstBias, basic.length⟩

/-- The number at the start of a text, and what follows it. -/
def readNumber (bias : Nat) : (position weight : Nat) → List Char → Option (Nat × List Char)
  | _, _, [] => none
  | position, weight, c :: cs =>
    match digit? c with
    | none => none
    | some d =>
      let t := threshold position bias
      if d < t then some (d * weight, cs)
      else
        (readNumber bias (position + base) (weight * (base - t)) cs).map fun (n, rest) =>
          (d * weight + n, rest)

theorem length_readNumber {bias position weight n : Nat} {cs rest : List Char}
    (h : readNumber bias position weight cs = some (n, rest)) : rest.length < cs.length := by
  induction cs generalizing position weight n with
  | nil => simp [readNumber] at h
  | cons c cs ih =>
    rw [readNumber] at h
    split at h
    · cases h
    · simp only at h
      split at h
      · cases h
        simp
      · obtain ⟨⟨m, r⟩, hr, he⟩ := Option.map_eq_some_iff.1 h
        cases he
        exact Nat.lt_succ_of_lt (ih hr)

/-- Takes characters out of their numbers and puts them into a name. -/
def takeAll (bias number place : Nat) (isFirst : Bool) (name : List Char) (cs : List Char) :
    Option (List Char) :=
  match cs with
  | [] => some name
  | c :: cs =>
    match _h : readNumber bias base 1 (c :: cs) with
    | none => none
    | some (steps, rest) =>
      let size := name.length + 1
      let number := number + (place + steps) / size
      let place := (place + steps) % size
      if number.isValidChar then
        takeAll (adapt steps size isFirst) number (place + 1) false
          (name.insertIdx place (Char.ofNat number)) rest
      else none
termination_by cs.length
decreasing_by exact length_readNumber _h

/-- The basic characters in front of the last hyphen, if there is one, and what follows it. -/
def cutBasics (cs : List Char) : List Char × List Char :=
  let tail := (cs.reverse.takeWhile (· ≠ '-')).reverse
  if tail.length = cs.length then ([], cs) else (cs.take (cs.length - tail.length - 1), tail)

/-- The name that an ASCII form stands for. -/
def decode (cs : List Char) : Option (List Char) :=
  let (basics, rest) := cutBasics cs
  takeAll firstBias firstNumber 0 true basics rest

end RegistrySync.Url.Punycode
