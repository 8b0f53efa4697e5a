import RegistrySync.Error
import RegistrySync.Text.Blank
import RegistrySync.Time.Instant

/-!
Lines for the user.

A line has a level and a message. On a terminal the message stands alone; elsewhere the time and
the level stand before it. Line breaks at the end of a message are dropped, those inside it are
kept. Errors go to the error stream, all else to the output.
-/

namespace RegistrySync

open Time

inductive Level where
  | info
  | warn
  | error
  deriving DecidableEq, Repr

def Level.name : Level → String
  | .info => "INFO"
  | .warn => "WARN"
  | .error => "ERROR"

/-- A line as the program means it, before it is written. -/
structure Line where
  level : Level
  message : String
  deriving DecidableEq, Repr

/-- The message without line breaks at its end. -/
def Line.text (l : Line) : String :=
  String.ofList (Text.trimEndBy (· == '\n') l.message.toList)

/-- Level and message, as they follow the time. -/
def Line.labelled (l : Line) : String := "[" ++ l.level.name ++ "] " ++ l.text

inductive Stream where
  | out
  | err
  deriving DecidableEq, Repr

def Level.stream : Level → Stream
  | .error => .err
  | _ => .out

structure Logger where
  toTerminal : Bool
  quiet : Bool
  deriving DecidableEq, Repr

namespace Logger

def ofTerminal (toTerminal : Bool) : Logger := ⟨toTerminal, false⟩

def silent : Logger := ⟨false, true⟩

def format (g : Logger) (l : Line) (now : Instant) : String :=
  if g.toTerminal then l.text else now.rfc3339 ++ " " ++ l.labelled

/-- What is written for a line, and where; a quiet logger writes nothing. -/
def write (g : Logger) (l : Line) (now : Instant) : Option (Stream × String) :=
  if g.quiet then none else some (l.level.stream, g.format l now ++ "\n")

end Logger

/-- The line that reports an outcome: none unless it is an error. -/
def Line.ofOutcome {α : Type} : Except Error α → Option Line
  | .ok _ => none
  | .error e => some ⟨.error, e.message⟩

end RegistrySync
