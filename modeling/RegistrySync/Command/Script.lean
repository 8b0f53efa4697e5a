import RegistrySync.Command.Basic

/-!
A program that follows a script.

There is one program; each of its runs takes the next entry of the script and is kept. Nothing
else can be started.
-/

namespace RegistrySync.Command

/-- What is left of a script, and the arguments of the runs, the latest first. -/
structure Script where
  entries : List Finished
  runs : List (List String)
  deriving DecidableEq, Repr

namespace Script

/-- Runs beyond the script fail. -/
def exhausted : Finished := ⟨.status 99, [], Text.Utf8.encode "script exhausted\n"⟩

def nul : Char := '\x00'

/-- Why a program other than the scripted one can not be started. -/
def absence (program : String) : String :=
  if program = "/" then "Permission denied (os error 13)"
  else "No such file or directory (os error 2)"

/-- The runner that knows one program. -/
def runner (program : String) : Runner Script where
  run name arguments s :=
    if (name :: arguments).any fun a => a.toList.contains nul then
      (.notStarted "nul byte found in provided data", s)
    else if name ≠ program then (.notStarted (absence name), s)
    else match s.entries with
      | [] => (.finished exhausted, ⟨[], arguments :: s.runs⟩)
      | f :: rest => (.finished f, ⟨rest, arguments :: s.runs⟩)

end Script

end RegistrySync.Command
