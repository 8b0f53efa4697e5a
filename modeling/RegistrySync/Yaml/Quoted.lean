import RegistrySync.Text.Digits
import RegistrySync.Yaml.Plain

/-!
Scalars between quotes.

Between single quotes a quote is written twice, and nothing else is special. Between double quotes
a backslash starts an escape; one at the end of a line takes the line break away.
-/

namespace RegistrySync.Yaml.Quoted

/-- The character with the number given by the first `n` characters. -/
def numbered (n : Nat) (gs : List Glyph) : Option (Char × List Glyph) :=
  match Text.inRadix 16 (chars (gs.take n)) with
  | none => none
  | some code =>
    if n ≤ gs.length ∧ code.isValidChar then some (Char.ofNat code, gs.drop n) else none

/-- The escapes of one character. -/
def escapes : List (Char × Char) :=
  [('0', '\x00'), ('a', '\x07'), ('b', '\x08'), ('t', '\t'), ('\t', '\t'), ('n', '\n'),
    ('v', '\x0b'), ('f', '\x0c'), ('r', '\r'), ('e', '\x1b'), (' ', ' '), ('"', '"'), ('/', '/'),
    ('\\', '\\'), ('N', Char.ofNat 0x85), ('_', Char.ofNat 0xA0), ('L', lineSeparator),
    ('P', paragraphSeparator)]

/-- The character that a backslash and `c` stand for. -/
def escape (c : Char) (rest : List Glyph) : Option (Char × List Glyph) :=
  match c with
  | 'x' => numbered 2 rest
  | 'u' => numbered 4 rest
  | 'U' => numbered 8 rest
  | _ => (escapes.lookup c).map (·, rest)

theorem length_numbered {n : Nat} {gs rest : List Glyph} {c : Char}
    (h : numbered n gs = some (c, rest)) : rest.length ≤ gs.length := by
  unfold numbered at h
  split at h
  · cases h
  · split at h
    · cases h
      simp
    · cases h

theorem length_escape {c d : Char} {gs rest : List Glyph}
    (h : escape c gs = some (d, rest)) : rest.length ≤ gs.length := by
  unfold escape at h
  split at h
  · exact length_numbered h
  · exact length_numbered h
  · exact length_numbered h
  · obtain ⟨_, _, hr⟩ := Option.map_eq_some_iff.1 h
    cases hr
    exact Nat.le_refl _

/-- Puts characters in front of a text. -/
def extend (cs : List Char) (r : Option (List Char × List Glyph)) :
    Option (List Char × List Glyph) :=
  r.map fun (text, rest) => (cs ++ text, rest)

/-- The text up to the single quote that ends it, and what follows. -/
def single (gs : List Glyph) : Option (List Char × List Glyph) :=
  if atDocumentMark gs then none
  else match gs with
    | [] => none
    | g :: rest =>
      if g.isSpacing then
        extend (fold ((g :: rest).takeWhile Glyph.isSpacing))
          (single (rest.dropWhile Glyph.isSpacing))
      else if g.char == '\'' then
        match rest with
        | q :: rest => if q.char == '\'' then extend ['\''] (single rest) else some ([], q :: rest)
        | [] => some ([], [])
      else extend [g.char] (single rest)
termination_by gs.length
decreasing_by
  · have := length_dropWhile Glyph.isSpacing rest
    simp only [List.length_cons]
    omega
  · simp only [List.length_cons]
    omega
  · simp

/-- The text up to the double quote that ends it, and what follows. -/
def double (gs : List Glyph) : Option (List Char × List Glyph) :=
  if atDocumentMark gs then none
  else match gs with
    | [] => none
    | g :: rest =>
      if g.isSpacing then
        extend (fold ((g :: rest).takeWhile Glyph.isSpacing))
          (double (rest.dropWhile Glyph.isSpacing))
      else if g.char == '"' then some ([], rest)
      else if g.char == '\\' then
        match rest with
        | [] => none
        | e :: rest =>
          if e.isBreak then
            extend ((chars (rest.takeWhile Glyph.isSpacing)).filter isBreak)
              (double (rest.dropWhile Glyph.isSpacing))
          else
            match _h : escape e.char rest with
            | none => none
            | some (c, rest) => extend [c] (double rest)
      else extend [g.char] (double rest)
termination_by gs.length
decreasing_by
  · have := length_dropWhile Glyph.isSpacing rest
    simp only [List.length_cons]
    omega
  · have := length_dropWhile Glyph.isSpacing rest
    simp only [List.length_cons]
    omega
  · have := length_escape _h
    simp only [List.length_cons]
    omega
  · simp

end RegistrySync.Yaml.Quoted
