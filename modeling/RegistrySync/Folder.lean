import RegistrySync.Text.Cut
import RegistrySync.Text.Utf8

/-!
Files, found by paths from a folder.

A path is followed name by name, and every name but the last has to lead to a folder. What lies
outside the folder is not known: paths may lead through it but find nothing there.
-/

namespace RegistrySync

/-- Why a file can not be read. -/
inductive FileFault where
  | absent
  | isFolder
  /-- A path leads on from a file. -/
  | notFolder
  | nameTooLong
  | nulInName
  | notText
  | other (why : String)
  deriving DecidableEq, Repr

def FileFault.message : FileFault → String
  | .absent => "No such file or directory (os error 2)"
  | .isFolder => "Is a directory (os error 21)"
  | .notFolder => "Not a directory (os error 20)"
  | .nameTooLong => "File name too long (os error 36)"
  | .nulInName => "file name contained an unexpected NUL byte"
  | .notText => "stream did not contain valid UTF-8"
  | .other why => why

inductive Folder.Entry where
  | file (content : List UInt8)
  | folder
  deriving DecidableEq, Repr

/-- The files and folders below a folder, by their paths. -/
structure Folder where
  entries : List (String × Folder.Entry)
  deriving DecidableEq, Repr

namespace Folder

/-- Where a path has led. -/
inductive Spot where
  /-- Along these names, the last one first. -/
  | inside (names : List String)
  | outside
  deriving DecidableEq, Repr

/-- Names and whole paths take fewer bytes than these. -/
def nameLimit : Nat := 256

def pathLimit : Nat := 4096

def path (names : List String) : String := "/".intercalate names.reverse

/-- What is at a spot. A folder is known by itself or by what is in it. -/
def entry? (f : Folder) : Spot → Option Entry
  | .outside => some .folder
  | .inside [] => some .folder
  | .inside names =>
    f.entries.lookup (path names) <|>
      if f.entries.any fun e => e.1.startsWith (path names ++ "/") then some .folder else none

/-- The spot that a name leads to from a spot. -/
def step (f : Folder) (s : Spot) (name : String) : Except FileFault Spot :=
  if f.entry? s ≠ some .folder then .error .notFolder
  else match name, s with
    | "", _ => .ok s
    | ".", _ => .ok s
    | "..", .inside (_ :: names) => .ok (.inside names)
    | "..", _ => .ok .outside
    | _, .outside => .error (if nameLimit ≤ name.utf8ByteSize then .nameTooLong else .absent)
    | _, .inside names =>
      if nameLimit ≤ name.utf8ByteSize then .error .nameTooLong
      else if (f.entry? (.inside (name :: names))).isSome then .ok (.inside (name :: names))
      else .error .absent

/-- The names that a path is made of. -/
def names (path : String) : List String :=
  (Text.pieces '/' path.toList).map String.ofList

/-- The content of the file that a path leads to. -/
def read (f : Folder) (path : String) : Except FileFault (List UInt8) := do
  if path.toList.contains '\x00' then throw .nulInName
  if path.isEmpty then throw .absent
  if pathLimit ≤ path.utf8ByteSize then throw .nameTooLong
  let start : Spot := if path.startsWith "/" then .outside else .inside []
  match f.entry? (← (names path).foldlM f.step start) with
  | some (.file content) => return content
  | some .folder => throw .isFolder
  | none => throw .absent

end Folder

/-- Something that files are read from. -/
abbrev Files := (path : String) → Except FileFault (List UInt8)

/-- The text of a file. -/
def Files.text (files : Files) (path : String) : Except FileFault String := do
  let content ← files path
  (Text.Utf8.decode content).mapError fun _ => .notText

end RegistrySync
