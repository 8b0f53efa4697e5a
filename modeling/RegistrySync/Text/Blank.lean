/-!
White space, and trimming by it.

Blank means the Unicode property `White_Space`: the space, the controls from tab to carriage
return, NEL, the no-break space and the typographic spaces. The zero-width space and the byte
order mark do not have the property.
-/

namespace RegistrySync.Text

/-- The characters with the Unicode property `White_Space`. -/
def isBlank (c : Char) : Bool :=
  let n := c.toNat
  (9 ≤ n && n ≤ 13) || n == 0x20 || n == 0x85 || n == 0xA0 || n == 0x1680 ||
    (0x2000 ≤ n && n ≤ 0x200A) || n == 0x2028 || n == 0x2029 || n == 0x202F || n == 0x205F ||
    n == 0x3000

def trimStartBy (p : Char → Bool) (cs : List Char) : List Char := cs.dropWhile p

def trimEndBy (p : Char → Bool) (cs : List Char) : List Char := (cs.reverse.dropWhile p).reverse

def trimBy (p : Char → Bool) (cs : List Char) : List Char := trimEndBy p (trimStartBy p cs)

/-- The text without blanks at its ends. -/
def trim (s : String) : String := String.ofList (trimBy isBlank s.toList)

/-- Nothing but blanks. -/
def onlyBlanks (s : String) : Bool := s.toList.all isBlank

@[simp] theorem trimBy_nil (p : Char → Bool) : trimBy p [] = [] := rfl

theorem trimEndBy_concat (p : Char → Bool) (cs : List Char) (c : Char) :
    trimEndBy p (cs ++ [c]) = if p c then trimEndBy p cs else cs ++ [c] := by
  by_cases h : p c <;> simp [trimEndBy, h]

end RegistrySync.Text
