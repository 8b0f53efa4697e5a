import RegistrySync.Yaml.Glyph
import RegistrySync.Yaml.Token

/-!
Block scalars: the lines below a bar or an angle, as far as they are indented.

The header says what becomes of the line breaks at the end, and may give the indentation. Without
that the widest of the blank lines at the start and the first line behind them decides. A folded
block joins two neighbouring lines by a space unless one of them starts with a blank.
-/

namespace RegistrySync.Yaml.Block

/-- What becomes of the line breaks at the end. -/
inductive Chomping where
  | strip
  /-- One of them stays. -/
  | clip
  | keep
  deriving DecidableEq, Repr

structure Header where
  chomping : Chomping
  /-- Columns of the block beyond those of what it stands in, if they are given. -/
  indent : Option Nat
  deriving DecidableEq, Repr

def chomping? (gs : List Glyph) : Option Chomping :=
  if startsWith '+' gs then some .keep else if startsWith '-' gs then some .strip else none

/-- A digit at the start, if there is one; a zero is none that counts. -/
def indent? (gs : List Glyph) : Option (Option Nat × List Glyph) :=
  match gs with
  | g :: rest =>
    if g.char == '0' then none
    else if g.char.isDigit then some (some (g.char.toNat - 48), rest)
    else some (none, gs)
  | [] => some (none, [])

/-- The header behind the bar or angle, and the lines below. -/
def header (gs : List Glyph) : Option (Header × List Glyph) := do
  match chomping? gs with
  | some c =>
    let (indent, rest) ← indent? (gs.drop 1)
    return (⟨c, indent⟩, ← endLine rest)
  | none =>
    let (indent, rest) ← indent? gs
    match if indent.isSome then chomping? rest else none with
    | some c => return (⟨c, indent⟩, ← endLine (rest.drop 1))
    | none => return (⟨.clip, indent⟩, ← endLine rest)

/-- The start of a line that has text, and the blank lines in front of it. -/
structure Lead where
  breaks : List Char
  /-- Most spaces that any of the lines starts with. -/
  widest : Nat
  /-- Spaces in front of the text. -/
  column : Nat
  rest : List Glyph

/-- Passes over blank lines and the spaces in front of the next one, of which at most `limit` are
taken. A tab among the spaces is refused. -/
def lead (limit : Option Nat) (gs : List Glyph) : Option Lead :=
  let wide := (gs.takeWhile Glyph.isSpace).length
  let column := limit.elim wide (min wide)
  let next := gs.drop column
  if startsWith '\t' next && limit.all (column < ·) then none
  else match _h : next with
    | [] => some ⟨[], column, column, []⟩
    | g :: rest =>
      if g.isBreak then
        (lead limit rest).map fun l =>
          { l with breaks := g.char :: l.breaks, widest := max column l.widest }
      else some ⟨[], column, column, g :: rest⟩
termination_by gs.length
decreasing_by
  have : next.length ≤ gs.length := by simp [next]
  rw [_h] at this
  simp only [List.length_cons] at this
  omega

theorem length_lead {limit : Option Nat} {gs : List Glyph} {l : Lead}
    (h : lead limit gs = some l) : l.rest.length ≤ gs.length := by
  fun_induction lead limit gs generalizing l with
  | case1 => cases h
  | case2 => cases h; exact Nat.zero_le _
  | case3 gs wide column next _ g rest hn _ =>
    rename_i ih
    obtain ⟨m, hm, rfl⟩ := Option.map_eq_some_iff.1 h
    have h₁ := ih hm
    have h₂ : next.length ≤ gs.length := by simp [next]
    rw [hn] at h₂
    simp only [List.length_cons] at h₂
    show m.rest.length ≤ _
    omega
  | case4 gs wide column next _ g rest hn =>
    cases h
    have h₂ : next.length ≤ gs.length := by simp [next]
    rwa [hn] at h₂

/-- What stands between two lines: the break that ends the first, and blank lines. -/
def joint (style : Style) (ended : List Char) (blanks : Bool) (l : Lead) : List Char :=
  if style = .folded && ended == ['\n'] && !blanks then
    if l.breaks.isEmpty then [' '] else l.breaks
  else ended ++ l.breaks

/-- The line breaks that stay at the end. -/
def tail (c : Chomping) (ended : List Char) (l : Lead) : List Char :=
  match c with
  | .strip => []
  | .clip => ended
  | .keep => ended ++ l.breaks

/-- The lines of a block that is `indent` columns wide, from a lead on. `ended` is the break behind
the line before, `blank` says whether that line started with one. -/
def lines (style : Style) (chomping : Chomping) (indent : Nat) (ended : List Char) (blank : Bool)
    (l : Lead) : Option (List Char × List Glyph) :=
  match _h : l.rest with
  | [] => some (tail chomping ended l, [])
  | g :: rest =>
    if l.column ≠ indent then some (tail chomping ended l, g :: rest)
    else
      let line := rest.takeWhile fun g => !g.isBreak
      let below := rest.dropWhile fun g => !g.isBreak
      match _h' : lead (some indent) (below.drop 1) with
      | none => none
      | some l' =>
        (lines style chomping indent (chars (below.take 1)) g.isBlank l').map fun (text, rest) =>
          (joint style ended (blank || g.isBlank) l ++ chars (g :: line) ++ text, rest)
termination_by l.rest.length
decreasing_by
  have h₁ := length_lead _h'
  have h₂ : below.length ≤ rest.length := length_dropWhile _ rest
  simp only [List.length_drop] at h₁
  rw [_h]
  simp only [List.length_cons]
  omega

/-- The text of a block scalar in a block that starts in front of the column `margin`. -/
def read (style : Style) (margin : Nat) (gs : List Glyph) : Option (List Char × List Glyph) := do
  let (h, gs) ← header gs
  match h.indent with
  | some n =>
    let indent := margin - 1 + n
    lines style h.chomping indent [] false (← lead (some indent) gs)
  | none =>
    let l ← lead none gs
    lines style h.chomping (max l.widest (max margin 1)) [] false l

end RegistrySync.Yaml.Block
