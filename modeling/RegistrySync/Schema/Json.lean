import RegistrySync.Json.Basic
import RegistrySync.Schema.Basic

/-!
Structured data as JSON values.

A record may also stand as the list of its fields in order; fields missing at the end of it then
have their fallbacks. Members that the schema does not name are passed over.
-/

namespace RegistrySync

mutual

def Schema.ofJson : {α : Type} → Schema α → Json → Except Schema.Mismatch α
  | _, .text, j =>
    match j with
    | .text s => .ok s
    | _ => .error (.type j.found Schema.text.expected)
  | _, .flag, j =>
    match j with
    | .flag b => .ok b
    | _ => .error (.type j.found Schema.flag.expected)
  | _, .word32, j => (Schema.asWord 32 Schema.word32.expected j.found).map UInt32.ofNat
  | _, .word64, j => (Schema.asWord 64 Schema.word64.expected j.found).map UInt64.ofNat
  | _, .optional s, j =>
    match j with
    | .null => .ok none
    | _ => (s.ofJson j).map some
  | _, .list s, j =>
    match j with
    | .list items => items.mapM s.ofJson
    | _ => .error (.type j.found (Schema.list s).expected)
  | _, .record name fields make parts, j =>
    match j with
    | .list items => (fields.ofItems name fields.size items.length 0 items).map make
    | .record members => do
      let slots ← members.foldlM (fun slots m => fields.ofMember m.1 m.2 slots) fields.empty
      return make (← fields.close slots)
    | _ => .error (.type j.found (Schema.record name fields make parts).expected)

/-- The fields as items from the place `i` on, of a record with `size` fields and a list with
`total` items. -/
def Fields.ofItems : {α : Type} → Fields α → (name : String) → (size total i : Nat) →
    List Json → Except Schema.Mismatch α
  | _, .nil, _, _, _, _, [] => .ok ()
  | _, .nil, _, _, total, _, _ :: _ => .error (.length total "fewer elements in array")
  | _, .cons f s rest, name, size, total, i, items =>
    match items with
    | j :: items => do
      let a ← s.ofJson j
      let b ← rest.ofItems name size total (i + 1) items
      return (a, b)
    | [] =>
      match f.fallback with
      | none => .error (.length i (Schema.expectedElements name size))
      | some a => (rest.ofItems name size total (i + 1) []).map (a, ·)

/-- Takes a member into its place. -/
def Fields.ofMember : {α : Type} → (fs : Fields α) → (name : String) → Json → fs.Slots →
    Except Schema.Mismatch fs.Slots
  | _, .nil, _, _, slots => .ok slots
  | _, .cons f s rest, name, j, slots =>
    if f.name = name then
      if slots.1.isSome then .error (.duplicate name)
      else (s.ofJson j).map fun a => (some a, slots.2)
    else (rest.ofMember name j slots.2).map fun more => (slots.1, more)

end

mutual

/-- The value as JSON, with the members of records in the order of their fields. -/
def Schema.toJson : {α : Type} → Schema α → α → Json
  | _, .text, s => .text s
  | _, .flag, b => .flag b
  | _, .word32, n => .number (.natural n.toNat)
  | _, .word64, n => .number (.natural n.toNat)
  | _, .optional s, a =>
    match a with
    | none => .null
    | some a => s.toJson a
  | _, .list s, as => .list (as.map s.toJson)
  | _, .record _ fields _ parts, b => .record (fields.toMembers (parts b))

def Fields.toMembers : {α : Type} → Fields α → α → List (String × Json)
  | _, .nil, _ => []
  | _, .cons f s rest, p =>
    if f.isOmitted p.1 then rest.toMembers p.2
    else (f.name, s.toJson p.1) :: rest.toMembers p.2

end

end RegistrySync
