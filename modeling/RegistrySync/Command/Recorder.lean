import RegistrySync.Command.Basic

/-!
Keeping a transcript of the programs that are run and what came of them.
-/

namespace RegistrySync.Command

/-- A run of a program and what came of it. -/
structure Execution where
  program : String
  arguments : List String
  outcome : Outcome
  deriving DecidableEq, Repr

/-- The runner with a transcript of its runs, in their order. -/
def Runner.transcribed {σ : Type} (r : Runner σ) : Runner (σ × List Execution) where
  run program arguments s :=
    let (o, t) := r.run program arguments s.1
    (o, t, s.2 ++ [⟨program, arguments, o⟩])

end RegistrySync.Command
