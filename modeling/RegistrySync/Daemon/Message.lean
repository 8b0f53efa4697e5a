import RegistrySync.Error
import RegistrySync.Schema.Document
import RegistrySync.Text.Blank

/-!
Messages of the daemon while it pulls or pushes.

Each line of the stream is a JSON record that reports progress or an error. A line that is no such
record is shown as it is.
-/

namespace RegistrySync.Daemon

/-- One message. -/
structure Message where
  id : Option String
  status : Option String
  progress : Option String
  error : Option String
  /-- The text in the details of an error. -/
  detail : Option (Option String)
  deriving DecidableEq, Repr

namespace Message

def detailSchema : Schema (Option String) :=
  .record "ErrorDetail" (.cons (.optional "message" none) (.optional .text) .nil)
    (fun p => p.1) (fun m => (m, ()))

def fields : Fields (Option String × Option String × Option String × Option String ×
    Option (Option String) × Unit) :=
  .cons (.optional "id" none) (.optional .text) <|
    .cons (.optional "status" none) (.optional .text) <|
    .cons (.optional "progress" none) (.optional .text) <|
    .cons (.optional "error" none) (.optional .text) <|
    .cons (.optional "errorDetail" none) (.optional detailSchema) .nil

def schema : Schema Message :=
  .record "JsonMessage" fields (fun p => ⟨p.1, p.2.1, p.2.2.1, p.2.2.2.1, p.2.2.2.2.1⟩)
    (fun m => (m.id, m.status, m.progress, m.error, m.detail, ()))

/-- The error that a message reports, the details first. -/
def reportedError (m : Message) : Option String := m.detail.join <|> m.error

/-- What of a message is shown: its parts that are not empty. -/
def display (m : Message) : String :=
  Text.joinWith " " ([m.id, m.status, m.progress].filterMap fun p => p.filter (!·.isEmpty))

end Message

/-- What a line of the stream says: a text to show, if there is one, or an error. -/
def checkLine (line : String) : Except Error (Option String) :=
  let line := Text.trim line
  if line.isEmpty then .ok none
  else match Message.schema.ofText line with
    | .error _ => .ok (some line)
    | .ok m =>
      match m.reportedError with
      | some e => .error (.daemon e)
      | none => .ok (if m.display.isEmpty then none else some m.display)

end RegistrySync.Daemon
