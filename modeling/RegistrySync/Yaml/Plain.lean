import RegistrySync.Yaml.Glyph

/-!
Plain scalars, and the folding of lines.

A plain scalar goes on over blanks and line breaks until something ends it: a colon or a comment
after a blank, a document mark, or, outside brackets, a line that is not indented enough.
-/

namespace RegistrySync.Yaml

/-- What blanks and line breaks between two words stand for. One line feed is a space; of several
the first is dropped. -/
def fold (gap : List Glyph) : List Char :=
  match (chars gap).filter isBreak with
  | [] => chars gap
  | ['\n'] => [' ']
  | '\n' :: more => more
  | breaks => breaks

/-- A tab behind a line break of the gap, in front of the column `margin`. -/
def hasTabInMargin (margin : Nat) (gap : List Glyph) : Bool :=
  (gap.dropWhile fun g => !g.isBreak).any fun g => g.char == '\t' && g.place.column < margin

namespace Plain

/-- A colon that may not stand in brackets. -/
def isStrayColon (inFlow : Bool) (g : Glyph) (rest : List Glyph) : Bool :=
  inFlow && g.char == ':' && atChar (fun c => isFlowIndicator c || c == '?') rest

/-- The glyph ends a word and the scalar. -/
def isStop (inFlow : Bool) (g : Glyph) (rest : List Glyph) : Bool :=
  (g.char == ':' && atSpacing rest) || (inFlow && isFlowIndicator g.char)

/-- The characters up to a blank or the end of the scalar, and what follows them. -/
def word (inFlow : Bool) : List Glyph → Option (List Char × List Glyph)
  | [] => some ([], [])
  | g :: rest =>
    if g.isSpacing then some ([], g :: rest)
    else if isStrayColon inFlow g rest then none
    else if isStop inFlow g rest then some ([], g :: rest)
    else (word inFlow rest).map fun (cs, rest) => (g.char :: cs, rest)

theorem length_word {inFlow : Bool} {gs rest : List Glyph} {cs : List Char}
    (h : word inFlow gs = some (cs, rest)) : cs.length + rest.length = gs.length := by
  induction gs generalizing cs with
  | nil => simp_all [word]
  | cons g gs ih =>
    simp only [word] at h
    split at h
    · simp_all
    · split at h
      · simp at h
      · split at h
        · simp_all
        · obtain ⟨⟨ds, r⟩, hr, hd⟩ := Option.map_eq_some_iff.1 h
          simp only [Prod.mk.injEq] at hd
          obtain ⟨rfl, rfl⟩ := hd
          have := ih hr
          simp only [List.length_cons]
          omega

/-- A scalar, or a part of it. -/
structure Result where
  text : List Char
  /-- It ended behind a line break. -/
  onNewLine : Bool
  rest : List Glyph

/-- What goes on behind a word. -/
def more (inFlow : Bool) (margin : Nat) (gs : List Glyph) : Option Result :=
  let gap := gs.takeWhile Glyph.isSpacing
  let next := gs.dropWhile Glyph.isSpacing
  let stopped : Result := ⟨[], gap.any Glyph.isBreak, next⟩
  if hasTabInMargin margin gap then none
  else if gap.isEmpty || next.isEmpty || startsWith '#' next || atDocumentMark next ||
      (!inFlow && next.head?.any fun g => g.place.column < margin) then some stopped
  else
    match _h : word inFlow next with
    | none => none
    | some ([], _) => some stopped
    | some (c :: cs, rest) =>
      (more inFlow margin rest).map fun r => { r with text := fold gap ++ c :: cs ++ r.text }
termination_by gs.length
decreasing_by
  have := length_word _h
  have : next.length ≤ gs.length := length_dropWhile Glyph.isSpacing gs
  simp only [List.length_cons] at *
  omega

end Plain

/-- The plain scalar at the start of `gs`, outside brackets with lines from the column `margin`
on. -/
def Plain.read (inFlow : Bool) (margin : Nat) (gs : List Glyph) : Option Plain.Result := do
  let (cs, rest) ← Plain.word inFlow gs
  let r ← Plain.more inFlow margin rest
  return { r with text := cs ++ r.text }

end RegistrySync.Yaml
