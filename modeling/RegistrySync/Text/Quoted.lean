import RegistrySync.Text.Hidden

/-!
Text in quotation marks, as it is shown in messages.

Quotation marks, backslashes, line ends, tabs and NUL have short escapes; other characters that
do not show by themselves are written as code points in hexadecimal.
-/

namespace RegistrySync.Text.Quoted

/-- The short escape of a character, if it has one. -/
def short : Char → Option Char
  | '"' => some '"'
  | '\\' => some '\\'
  | '\t' => some 't'
  | '\r' => some 'r'
  | '\n' => some 'n'
  | '\x00' => some '0'
  | _ => none

def codePoint (c : Char) : List Char :=
  ['\\', 'u', '\x7b'] ++ Nat.toDigits 16 c.toNat ++ ['\x7d']

def escape (c : Char) : List Char :=
  match short c with
  | some s => ['\\', s]
  | none => if isHidden c then codePoint c else [c]

def encode (s : String) : String :=
  String.ofList ('"' :: s.toList.flatMap escape ++ ['"'])

example : encode "a\"b" = "\"a\\\"b\"" := by decide +kernel

end RegistrySync.Text.Quoted
