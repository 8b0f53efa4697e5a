import RegistrySync.Json.Document
import RegistrySync.Schema.Basic

/-!
Structured data read off a JSON text.

The text is read in order, and the first thing that is wrong with it is told, be it a fault of
the text or a value of the wrong shape. Parts that the schema has no place for are passed over,
which is more lenient than reading them.
-/

namespace RegistrySync

open Json (Document Items Members Fault Reading)

/-- The fault of a value that stands where something else is expected. A scalar is read first. -/
def Json.Document.unfit (expected : String) : Document → Fault
  | .null => .mismatch (.type .null expected)
  | .flag b => .mismatch (.type (.flag b) expected)
  | .number r =>
    match r.content with
    | .ok n => .mismatch (.type n.found expected)
    | .error f => f
  | .text r =>
    match r.content with
    | .ok s => .mismatch (.type (.text s) expected)
    | .error f => f
  | .list _ => .mismatch (.type .list expected)
  | .record _ => .mismatch (.type .record expected)
  | .broken f => f

/-- A whole number of `bits` bits. -/
def Json.Document.word (bits : Nat) (expected : String) : Document → Except Fault Nat
  | .number r => do
    let n ← r.content
    (Schema.asWord bits expected n.found).mapError .mismatch
  | d => .error (d.unfit expected)

/-- Every item of a list up to its end, read by `f`. -/
def Json.Items.read {α : Type} (f : Document → Except Fault α) : Items → Except Fault (List α)
  | .stop e =>
    match e.fault with
    | some fault => .error fault
    | none => .ok []
  | .item d rest => do
    let a ← f d
    let as ← rest.read f
    return a :: as

/-- Every member of a record up to its end, taken in by `f`. -/
def Json.Members.read {σ : Type} (f : String → Document → σ → Except Fault σ) :
    Members → σ → Except Fault σ
  | .stop e, s =>
    match e.fault with
    | some fault => .error fault
    | none => .ok s
  | .member key d rest, s => do
    let name ← key.content
    let s ← f name d s
    rest.read f s

mutual

def Schema.ofDocument : {α : Type} → Schema α → Document → Except Fault α
  | _, .text, d =>
    match d with
    | .text r => r.content
    | _ => .error (d.unfit Schema.text.expected)
  | _, .flag, d =>
    match d with
    | .flag b => .ok b
    | _ => .error (d.unfit Schema.flag.expected)
  | _, .word32, d => (d.word 32 Schema.word32.expected).map UInt32.ofNat
  | _, .word64, d => (d.word 64 Schema.word64.expected).map UInt64.ofNat
  | _, .optional s, d =>
    match d with
    | .null => .ok none
    | _ => (s.ofDocument d).map some
  | _, .list s, d =>
    match d with
    | .list items => items.read s.ofDocument
    | _ => .error (d.unfit (Schema.list s).expected)
  | _, .record name fields make parts, d =>
    match d with
    | .list items => (fields.takeItems name fields.size 0 items).map make
    | .record members => do
      let slots ← members.read fields.takeMember fields.empty
      match fields.close slots with
      | .ok a => return make a
      | .error m => throw (.mismatch m)
    | _ => .error (d.unfit (Schema.record name fields make parts).expected)

/-- The fields as items from the place `i` on, of a record with `size` fields. -/
def Fields.takeItems : {α : Type} → Fields α → (name : String) → (size i : Nat) → Items →
    Except Fault α
  | _, .nil, _, _, _, items =>
    match items with
    | .item _ _ => .error .trailingCharacters
    | .stop e =>
      match e.faultWhenFull with
      | some fault => .error fault
      | none => .ok ()
  | _, .cons f s rest, name, size, i, items =>
    match items with
    | .item d more => do
      let a ← s.ofDocument d
      let b ← rest.takeItems name size (i + 1) more
      return (a, b)
    | .stop e =>
      match e.fault, f.fallback with
      | some fault, _ => .error fault
      | none, none => .error (.mismatch (.length i (Schema.expectedElements name size)))
      | none, some a => (rest.takeItems name size (i + 1) (.stop e)).map (a, ·)

/-- Takes a member into its place. -/
def Fields.takeMember : {α : Type} → (fs : Fields α) → (name : String) → Document → fs.Slots →
    Except Fault fs.Slots
  | _, .nil, _, d, slots =>
    match d.obstacle with
    | some fault => .error fault
    | none => .ok slots
  | _, .cons f s rest, name, d, slots =>
    if f.name = name then
      if slots.1.isSome then .error (.mismatch (.duplicate name))
      else (s.ofDocument d).map fun a => (some a, slots.2)
    else (rest.takeMember name d slots.2).map fun more => (slots.1, more)

end

/-- The value that a text is, and nothing behind it. -/
def Schema.ofBytes {α : Type} (s : Schema α) (text : List UInt8) : Except Fault α := do
  let (d, more) := Document.parse text
  let a ← s.ofDocument d
  if more then throw .trailingCharacters
  return a

def Schema.ofText {α : Type} (s : Schema α) (text : String) : Except Fault α :=
  s.ofBytes (Text.Utf8.encode text)

end RegistrySync
