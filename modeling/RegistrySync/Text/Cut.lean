/-!
Cutting a text at a separator character.

`cutFirst` and `cutLast` take the separator out at its first and last place; `pieces` cuts at
every place, so that a text without the separator is one piece.
-/

namespace RegistrySync.Text

/-- What stands before and after the first `c`. -/
def cutFirst (c : Char) : List Char → Option (List Char × List Char)
  | [] => none
  | x :: xs => if x = c then some ([], xs) else (cutFirst c xs).map fun (a, b) => (x :: a, b)

/-- What stands before and after the last `c`. -/
def cutLast (c : Char) : List Char → Option (List Char × List Char)
  | [] => none
  | x :: xs =>
    match cutLast c xs with
    | some (a, b) => some (x :: a, b)
    | none => if x = c then some ([], xs) else none

/-- The parts between the places of `c`; never empty. -/
def pieces (c : Char) : List Char → List (List Char)
  | [] => [[]]
  | x :: xs =>
    if x = c then [] :: pieces c xs
    else match pieces c xs with
      | [] => [[x]]
      | p :: ps => (x :: p) :: ps

/-- The lines of a text. A line break ends one; what follows the last one is a line if there is any.
-/
def lines (cs : List Char) : List (List Char) :=
  let ps := pieces '\n' cs
  if ps.getLast? = some [] then ps.dropLast else ps

/-- The rest of `cs` behind `lead`, if `cs` starts with it. -/
def stripLead (lead cs : List Char) : Option (List Char) :=
  match lead, cs with
  | [], cs => some cs
  | _ :: _, [] => none
  | p :: ps, c :: cs => if p = c then stripLead ps cs else none

/-- Whether `needle` stands somewhere in the text. -/
def contains (needle : List Char) : List Char → Bool
  | [] => needle.isEmpty
  | c :: cs => needle.isPrefixOf (c :: cs) || contains needle cs

def joinWith (sep : String) : List String → String := String.intercalate sep

theorem cutFirst_eq_some {c : Char} {cs a b : List Char} (h : cutFirst c cs = some (a, b)) :
    cs = a ++ c :: b ∧ c ∉ a := by
  induction cs generalizing a with
  | nil => simp [cutFirst] at h
  | cons x xs ih =>
    simp only [cutFirst] at h
    split at h
    · rename_i hx
      simp only [Option.some.injEq, Prod.mk.injEq] at h
      obtain ⟨rfl, rfl⟩ := h
      simp [hx]
    · rename_i hx
      simp only [Option.map_eq_some_iff, Prod.exists, Prod.mk.injEq] at h
      obtain ⟨a', b', h', rfl, rfl⟩ := h
      obtain ⟨rfl, hn⟩ := ih h'
      simp [hn, Ne.symm hx]

theorem cutFirst_eq_none {c : Char} {cs : List Char} : cutFirst c cs = none ↔ c ∉ cs := by
  induction cs with
  | nil => simp [cutFirst]
  | cons x xs ih =>
    by_cases hx : x = c
    · simp [cutFirst, hx]
    · simp [cutFirst, hx, ih, Ne.symm hx]

theorem cutLast_eq_none {c : Char} {cs : List Char} : cutLast c cs = none ↔ c ∉ cs := by
  induction cs with
  | nil => simp [cutLast]
  | cons x xs ih =>
    cases h : cutLast c xs with
    | some p =>
      have : c ∈ xs := Decidable.not_not.1 (mt ih.2 (by simp [h]))
      simp [cutLast, h, this]
    | none =>
      have := ih.1 h
      by_cases hx : x = c
      · simp [cutLast, h, hx]
      · simp [cutLast, h, hx, this, Ne.symm hx]

theorem cutLast_eq_some {c : Char} {cs a b : List Char} (h : cutLast c cs = some (a, b)) :
    cs = a ++ c :: b ∧ c ∉ b := by
  induction cs generalizing a with
  | nil => simp [cutLast] at h
  | cons x xs ih =>
    cases hr : cutLast c xs with
    | some p =>
      simp only [cutLast, hr, Option.some.injEq, Prod.mk.injEq] at h
      obtain ⟨rfl, rfl⟩ := h
      obtain ⟨rfl, hn⟩ := ih hr
      simp [hn]
    | none =>
      simp only [cutLast, hr, Option.ite_none_right_eq_some, Option.some.injEq,
        Prod.mk.injEq] at h
      obtain ⟨rfl, rfl, rfl⟩ := h
      exact ⟨rfl, cutLast_eq_none.1 hr⟩

end RegistrySync.Text
