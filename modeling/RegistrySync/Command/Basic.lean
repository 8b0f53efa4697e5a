import RegistrySync.Text.Utf8

/-!
Running other programs.

A program that can be started ends with a status, having written to its output and its error
output. One that can not be started gives the reason.
-/

namespace RegistrySync.Command

/-- How a program came to its end. -/
inductive Exit where
  | status (code : Nat)
  /-- Killed by a signal. -/
  | signal (number : Nat)
  /-- Killed by a signal, with an image of its memory left behind. -/
  | dumped (number : Nat)
  deriving DecidableEq, Repr

namespace Exit

def isSuccess (e : Exit) : Bool := e == .status 0

def signalNames : List (Nat × String) := [
  (1, "SIGHUP"), (2, "SIGINT"), (3, "SIGQUIT"), (4, "SIGILL"), (5, "SIGTRAP"), (6, "SIGABRT"),
  (7, "SIGBUS"), (8, "SIGFPE"), (9, "SIGKILL"), (10, "SIGUSR1"), (11, "SIGSEGV"),
  (12, "SIGUSR2"), (13, "SIGPIPE"), (14, "SIGALRM"), (15, "SIGTERM"), (16, "SIGSTKFLT"),
  (17, "SIGCHLD"), (18, "SIGCONT"), (19, "SIGSTOP"), (20, "SIGTSTP"), (21, "SIGTTIN"),
  (22, "SIGTTOU"), (23, "SIGURG"), (24, "SIGXCPU"), (25, "SIGXFSZ"), (26, "SIGVTALRM"),
  (27, "SIGPROF"), (28, "SIGWINCH"), (29, "SIGIO"), (30, "SIGPWR"), (31, "SIGSYS")]

/-- A signal by its number, and by its name if it has one. -/
def signalText (number : Nat) : String :=
  "signal: " ++ toString number ++
    match signalNames.lookup number with
    | some name => " (" ++ name ++ ")"
    | none => ""

def text : Exit → String
  | .status code => "exit status: " ++ toString code
  | .signal number => signalText number
  | .dumped number => signalText number ++ " (core dumped)"

end Exit

/-- What is known of a program that has ended. -/
structure Finished where
  exit : Exit
  output : List UInt8
  errorOutput : List UInt8
  deriving DecidableEq, Repr

inductive Outcome where
  | finished (f : Finished)
  | notStarted (why : String)
  deriving DecidableEq, Repr

/-- Something that runs programs with arguments. -/
structure Runner (σ : Type) where
  run : (program : String) → (arguments : List String) → σ → Outcome × σ

end RegistrySync.Command
