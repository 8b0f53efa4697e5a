import RegistrySync.Daemon.Message

/-!
Reading the stream of messages.

The stream comes in pieces that need not end where lines do. `Progress.ofChunks` works off each
line as soon as it is complete and stops at the first error; `Progress.ofBytes` says what is meant
by looking at the whole stream at once.
-/

namespace RegistrySync.Daemon

/-- How far a stream was read. -/
structure Progress where
  /-- Texts to show, in order. -/
  shown : List String
  /-- The error that ended the reading. -/
  error : Option Error
  deriving DecidableEq, Repr

def newline : UInt8 := 10

namespace Progress

def none : Progress := ⟨[], .none⟩

/-- Takes in one line. -/
def line (bytes : List UInt8) (p : Progress) : Progress :=
  match p.error with
  | some _ => p
  | .none =>
    match checkLine (Text.Utf8.decodeLossy bytes) with
    | .error e => { p with error := some e }
    | .ok .none => p
    | .ok (some text) => { p with shown := p.shown ++ [text] }

/-! By pieces. -/

/-- A reading under way: bytes of a line that is not complete yet. -/
structure Reading where
  progress : Progress
  buffer : List UInt8

/-- Takes in a byte; a newline completes a line. -/
def Reading.byte (r : Reading) (b : UInt8) : Reading :=
  if b = newline then ⟨r.progress.line (r.buffer.reverse ++ [b]), []⟩
  else ⟨r.progress, b :: r.buffer⟩

def Reading.chunk (r : Reading) (bytes : List UInt8) : Reading := bytes.foldl Reading.byte r

/-- The end of the stream completes a line that has begun. -/
def Reading.finish (r : Reading) : Progress :=
  if r.buffer.isEmpty then r.progress else r.progress.line r.buffer.reverse

/-- Reads a stream in pieces; at a broken end the line that has begun is lost, and `onBreak` is
the error. -/
def ofChunks (chunks : List (List UInt8)) (isComplete : Bool) (onBreak : Error) : Progress :=
  let r := chunks.foldl Reading.chunk ⟨none, []⟩
  if isComplete then r.finish
  else { r.progress with error := r.progress.error <|> some onBreak }

/-! As a whole. -/

/-- The lines of a text with their newlines, and what follows the last newline. -/
def splitLines : List UInt8 → List (List UInt8) × List UInt8
  | [] => ([], [])
  | b :: rest =>
    let (lines, last) := splitLines rest
    if b = newline then ([b] :: lines, last)
    else match lines with
      | [] => ([], b :: last)
      | l :: ls => ((b :: l) :: ls, last)

/-- Reads a whole stream. -/
def ofBytes (bytes : List UInt8) (isComplete : Bool) (onBreak : Error) : Progress :=
  let (lines, last) := splitLines bytes
  let p := lines.foldl (fun p l => p.line l) none
  if isComplete then if last.isEmpty then p else p.line last
  else { p with error := p.error <|> some onBreak }

end Progress

end RegistrySync.Daemon
