import RegistrySync.Schema.Basic
import RegistrySync.Yaml.Document
import RegistrySync.Yaml.Fault
import RegistrySync.Yaml.Value

/-!
Structured data as the nodes of a YAML document.

Where a text is expected every scalar will do, and a scalar for which nothing is written stands for
a list or record without parts. Members that the schema does not name are passed over. What is
wrong is told with the way to it.
-/

namespace RegistrySync

open Yaml (Node Scalar Path Fault)

/-- A document that is read: its root, and how often aliases may be followed. -/
structure Yaml.Document where
  root : Node
  limit : Nat

/-- Aliases may be followed this often for every mark of a document. -/
def Yaml.repetitions : Nat := 100

def Yaml.Document.ofRoot (root : Node) : Yaml.Document := ⟨root, root.size * Yaml.repetitions⟩

namespace Yaml

/-- Reading counts the aliases that it follows. -/
abbrev Reading := StateT Nat (Except Fault)

def Reading.fail {α : Type} (path : Path) (m : Schema.Mismatch) : Reading α :=
  throw (.mismatch path m)

/-- The node that a node stands for. -/
def Document.follow (d : Document) (n : Node) : Reading Node :=
  match n with
  | .alias a => do
    modify (· + 1)
    if d.limit < (← get) then throw .tooManyRepetitions
    return (d.root.find? a).getD n
  | n => return n

/-- Why a node does not stand where something else is expected. -/
def Node.unfit (expected : String) : Node → Schema.Mismatch
  | .scalar _ s => s.unfit expected
  | .list _ _ => .type .list expected
  | .record _ _ => .type .record expected
  | .alias _ => .type .null expected

def Node.isEmpty : Node → Bool
  | .scalar _ s => s.text.isEmpty && s.style = .plain
  | _ => false

/-- A whole number below `2 ^ 64`. -/
def Node.natural? : Node → Option Nat
  | .scalar _ s =>
    if s.isReadable "int" then (Numeral.natural? s.text.toList).filter (· < Nat.pow 2 64) else none
  | _ => none

def Node.flag? : Node → Option Bool
  | .scalar _ s => if s.isReadable "bool" then Yaml.flag? s.text else none
  | _ => none

/-- A whole number of `bits` bits. -/
def Node.word (bits : Nat) (expected : String) (n : Node) : Except Schema.Mismatch Nat :=
  match n.natural? with
  | some k => Schema.asWord bits expected (.natural k)
  | none => .error (n.unfit expected)

/-- Whether an optional part is there. A text that is tagged as the empty value has to be it. -/
def Scalar.isPresent (s : Scalar) : Except Schema.Mismatch Bool :=
  if s.style ≠ .plain then .ok true
  else match s.tag with
    | none => .ok !(s.text.isEmpty || s.text ∈ nullTexts)
    | some t =>
      if t ≠ coreTag "null" then .ok true
      else if s.text ∈ nullTexts then .ok false
      else .error (.value (.text s.text) "null")

/-- The name of a field. -/
def fieldName (d : Document) (path : Path) (key : Node) : Reading String := do
  match ← d.follow key with
  | .scalar _ s => return s.text
  | n => Reading.fail path (n.unfit "field identifier")

/-- The step to the value of a key. -/
def Node.step : Node → Step
  | .scalar _ s => .member s.text
  | _ => .unnamed

def Reading.ofExcept {α : Type} (path : Path) : Except Schema.Mismatch α → Reading α
  | .ok a => return a
  | .error m => Reading.fail path m

end Yaml

mutual

def Schema.ofNode (d : Yaml.Document) : {α : Type} → Schema α → Path → Node → Yaml.Reading α
  | _, .text, path, n => do
    match ← d.follow n with
    | .scalar _ s => return s.text
    | n => .fail path (n.unfit Schema.text.expected)
  | _, .flag, path, n => do
    let n ← d.follow n
    match n.flag? with
    | some b => return b
    | none => .fail path (n.unfit Schema.flag.expected)
  | _, .word32, path, n => do
    let n ← d.follow n
    return .ofNat (← .ofExcept path (n.word 32 Schema.word32.expected))
  | _, .word64, path, n => do
    let n ← d.follow n
    return .ofNat (← .ofExcept path (n.word 64 Schema.word64.expected))
  | _, .optional s, path, n => do
    let n ← d.follow n
    let present ← match n with
      | .scalar _ sc => .ofExcept (path.drop 1) sc.isPresent
      | _ => pure true
    if present then return some (← s.ofNode d path n) else return none
  | _, .list s, path, n => do
    let n ← d.follow n
    match n with
    | .list _ items => items.toList.zipIdx.mapM fun (n, i) => s.ofNode d (.item i :: path) n
    | n => if n.isEmpty then return [] else .fail path (n.unfit (Schema.list s).expected)
  | _, .record name fields make parts, path, n => do
    let n ← d.follow n
    let slots ← match n with
      | .record _ members =>
        members.toList.foldlM (fun slots m => do
          let name ← Yaml.fieldName d path m.1
          fields.ofEntry d path m.1.step name m.2 slots) fields.empty
      | n =>
        if n.isEmpty then pure fields.empty
        else .fail path (n.unfit (Schema.record name fields make parts).expected)
    return make (← .ofExcept path (fields.close slots))

/-- Takes the value of a field into its place. -/
def Fields.ofEntry (d : Yaml.Document) : {α : Type} → (fs : Fields α) → Path → Yaml.Step →
    (name : String) → Node → fs.Slots → Yaml.Reading fs.Slots
  | _, .nil, _, _, _, _, slots => return slots
  | _, .cons f s rest, path, step, name, n, slots =>
    if f.name = name then
      if slots.1.isSome then .fail path (.duplicate name)
      else do return (some (← s.ofNode d (step :: path) n), slots.2)
    else do return (slots.1, ← rest.ofEntry d path step name n slots.2)

end

/-- The value that a YAML text is. -/
def Schema.ofYaml {α : Type} (s : Schema α) (text : String) : Except Fault α := do
  match Node.ofText text with
  | none => throw .notWellFormed
  | some root =>
    let (a, _) ← (s.ofNode (.ofRoot root) [] root).run 0
    return a

end RegistrySync
