import RegistrySync.Schema.Mismatch

/-!
The shape of structured data.

A schema says how values of a type are made up of texts, flags, words, lists and records. Records
name their fields; a field that may be missing carries the value it then has, and one may be left
out when written. Every format that the data can be written in has one reader, which follows the
schema.
-/

namespace RegistrySync

/-- A named part of a record. -/
structure Field (α : Type) where
  name : String
  /-- The value of the field where it is missing; without one it may not be. -/
  fallback : Option α
  /-- The values that are not written. -/
  isOmitted : α → Bool

/-- A field that has to be there. -/
def Field.required {α : Type} (name : String) : Field α := ⟨name, none, fun _ => false⟩

/-- A field that may be missing. -/
def Field.optional {α : Type} (name : String) (fallback : α) : Field α :=
  ⟨name, some fallback, fun _ => false⟩

mutual

inductive Schema : Type → Type 1 where
  | text : Schema String
  | flag : Schema Bool
  | word32 : Schema UInt32
  | word64 : Schema UInt64
  | optional {α : Type} (s : Schema α) : Schema (Option α)
  | list {α : Type} (s : Schema α) : Schema (List α)
  /-- A record, the fields of which make up a value. -/
  | record {α β : Type} (name : String) (fields : Fields α) (make : α → β) (parts : β → α) :
    Schema β

/-- Fields in the order of their declaration. -/
inductive Fields : Type → Type 1 where
  | nil : Fields Unit
  | cons {α β : Type} (f : Field α) (s : Schema α) (rest : Fields β) : Fields (α × β)

end

namespace Fields

/-- One place for each field, filled as the fields are met. -/
def Slots : {α : Type} → Fields α → Type
  | _, .nil => Unit
  | _, @Fields.cons a _ _ _ rest => Option a × rest.Slots

/-- No field met yet. -/
def empty : {α : Type} → (fs : Fields α) → fs.Slots
  | _, .nil => ()
  | _, .cons _ _ rest => (none, rest.empty)

def size : {α : Type} → Fields α → Nat
  | _, .nil => 0
  | _, .cons _ _ rest => rest.size + 1

/-- The fields once all are read; the first one that is missing and may not be is told. -/
def close : {α : Type} → (fs : Fields α) → fs.Slots → Except Schema.Mismatch α
  | _, .nil, _ => .ok ()
  | _, .cons f _ rest, slots =>
    match slots.1 <|> f.fallback with
    | none => .error (.missing f.name)
    | some a => (rest.close slots.2).map (a, ·)

end Fields

namespace Schema

/-- The name of what a schema accepts. -/
def expected : {α : Type} → Schema α → String
  | _, .text => "a string"
  | _, .flag => "a boolean"
  | _, .word32 => "u32"
  | _, .word64 => "u64"
  | _, .optional s => s.expected
  | _, .list _ => "a sequence"
  | _, .record name _ _ _ => "struct " ++ name

/-- The name of a record together with its size. -/
def expectedElements (name : String) (size : Nat) : String :=
  "struct " ++ name ++ " with " ++ toString size ++
    (if size = 1 then " element" else " elements")

/-- A number where a word of `bits` bits is expected. -/
def asWord (bits : Nat) (expected : String) : Found → Except Mismatch Nat
  | .natural n => if n < Nat.pow 2 bits then .ok n else .error (.value (.natural n) expected)
  | .negative n => .error (.value (.negative n) expected)
  | found => .error (.type found expected)

end Schema

end RegistrySync
