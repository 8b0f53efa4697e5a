import RegistrySync.Json.Token

/-!
The structure of a JSON text, as far as it has one.

Every text has a document. Where a text breaks off or breaks the rules, the document says so at
that place; what would follow is left out or meaningless, for reading never gets there. Reading a
document in order therefore meets the faults of the text in order.
-/

namespace RegistrySync.Json

/-- How a list ends. -/
inductive ListEnd where
  | closed
  /-- The text ends inside the list. -/
  | unclosed
  /-- Neither a comma nor a bracket follows an item. -/
  | unseparated
  /-- A bracket follows a comma. -/
  | trailingComma
  deriving DecidableEq

/-- How a record ends. -/
inductive RecordEnd where
  | closed
  | unclosed
  /-- Neither a comma nor a brace follows a member. -/
  | unseparated
  /-- A member starts with something that is no text. -/
  | unnamed
  /-- A brace follows a comma. -/
  | trailingComma
  /-- The text ends at a comma. -/
  | endAtComma
  deriving DecidableEq

mutual

inductive Document where
  | null
  | flag (b : Bool)
  | number (r : Reading Number)
  | text (r : Reading String)
  | list (items : Items)
  | record (members : Members)
  | broken (f : Fault)

inductive Items where
  | stop (e : ListEnd)
  | item (d : Document) (rest : Items)

inductive Members where
  | stop (e : RecordEnd)
  | member (key : Reading String) (value : Document) (rest : Members)

end

/-- What keeps a list from ending well, if it is read. -/
def ListEnd.fault : ListEnd → Option Fault
  | .closed => none
  | .unclosed => some .endInList
  | .unseparated => some .expectedCommaOrBracket
  | .trailingComma => some .trailingComma

/-- The same, if the list is passed over. -/
def ListEnd.obstacle : ListEnd → Option Fault
  | .trailingComma => some .expectedValue
  | e => e.fault

/-- The same, if no further item may come. -/
def ListEnd.faultWhenFull : ListEnd → Option Fault
  | .unseparated => some .trailingCharacters
  | e => e.fault

def RecordEnd.fault : RecordEnd → Option Fault
  | .closed => none
  | .unclosed => some .endInRecord
  | .unseparated => some .expectedCommaOrBrace
  | .unnamed => some .keyNotText
  | .trailingComma => some .trailingComma
  | .endAtComma => some .endInValue

def RecordEnd.obstacle : RecordEnd → Option Fault
  | .trailingComma => some .keyNotText
  | .endAtComma => some .endInRecord
  | e => e.fault

/-! From tokens. The first argument bounds the nesting of calls; twice the number of tokens is
enough, for every second call takes a token. -/

mutual

/-- The value at the start of the tokens, and what follows it. -/
def Document.take : Nat → List Token → Document × List Token
  | 0, ts => (.broken .endInValue, ts)
  | _, [] => (.broken .endInValue, [])
  | n + 1, t :: ts =>
    match t with
    | .null => (.null, ts)
    | .flag b => (.flag b, ts)
    | .number r => (.number r, ts)
    | .text r => (.text r, ts)
    | .broken f => (.broken f, [])
    | .openList =>
      match ts with
      | [] => (.list (.stop .unclosed), [])
      | .closeList :: ts => (.list (.stop .closed), ts)
      | ts =>
        let (items, ts) := Items.take n ts
        (.list items, ts)
    | .openRecord =>
      match ts with
      | [] => (.record (.stop .unclosed), [])
      | .closeRecord :: ts => (.record (.stop .closed), ts)
      | ts =>
        let (members, ts) := Members.take n ts
        (.record members, ts)
    | _ => (.broken .expectedValue, ts)

/-- The items of a list from one of them on. -/
def Items.take : Nat → List Token → Items × List Token
  | 0, ts => (.stop .unclosed, ts)
  | n + 1, ts =>
    let (d, ts) := Document.take n ts
    match ts with
    | [] => (.item d (.stop .unclosed), [])
    | .closeList :: ts => (.item d (.stop .closed), ts)
    | .comma :: .closeList :: ts => (.item d (.stop .trailingComma), ts)
    | .comma :: ts =>
      let (rest, ts) := Items.take n ts
      (.item d rest, ts)
    | ts => (.item d (.stop .unseparated), ts)

/-- The members of a record from one of them on. -/
def Members.take : Nat → List Token → Members × List Token
  | 0, ts => (.stop .unclosed, ts)
  | n + 1, ts =>
    match ts with
    | .text key :: ts =>
      let (d, ts) := match ts with
        | [] => (Document.broken .endInRecord, [])
        | .colon :: ts => Document.take n ts
        | ts => (.broken .expectedColon, ts)
      match ts with
      | [] => (.member key d (.stop .unclosed), [])
      | .closeRecord :: ts => (.member key d (.stop .closed), ts)
      | [.comma] => (.member key d (.stop .endAtComma), [])
      | .comma :: .closeRecord :: ts => (.member key d (.stop .trailingComma), ts)
      | .comma :: ts =>
        let (rest, ts) := Members.take n ts
        (.member key d rest, ts)
      | ts => (.member key d (.stop .unseparated), ts)
    | ts => (.stop .unnamed, ts)

end

/-- The document of a text, and whether anything follows it. -/
def Document.parse (text : List UInt8) : Document × Bool :=
  let tokens := Token.scan text
  let (d, rest) := Document.take (2 * tokens.length + 1) tokens
  (d, !rest.isEmpty)

/-! Passing over. -/

mutual

/-- What keeps a reader from passing over a value, if anything does. -/
def Document.obstacle : Document → Option Fault
  | .null => none
  | .flag _ => none
  | .number r => r.obstacle
  | .text r => r.obstacle
  | .broken f => some f
  | .list items => items.obstacle
  | .record members => members.obstacle

def Items.obstacle : Items → Option Fault
  | .stop e => e.obstacle
  | .item d rest => d.obstacle <|> rest.obstacle

def Members.obstacle : Members → Option Fault
  | .stop e => e.obstacle
  | .member key d rest => key.obstacle <|> d.obstacle <|> rest.obstacle

end

/-! As plain values. -/

/-- Lists and records stand at most this deep inside each other. -/
def maxDepth : Nat := 127

mutual

/-- The value, all of which has to be fit for use; `depth` more levels may be entered. -/
def Document.value (depth : Nat) : Document → Except Fault Json
  | .null => .ok .null
  | .flag b => .ok (.flag b)
  | .number r => r.content.map .number
  | .text r => r.content.map .text
  | .broken f => .error f
  | .list items =>
    match depth with
    | 0 => .error .tooDeep
    | n + 1 => (items.values n).map .list
  | .record members =>
    match depth with
    | 0 => .error .tooDeep
    | n + 1 => (members.values n).map Json.ofMembers

def Items.values (depth : Nat) : Items → Except Fault (List Json)
  | .stop e =>
    match e.fault with
    | some f => .error f
    | none => .ok []
  | .item d rest => do
    let j ← d.value depth
    let js ← rest.values depth
    return j :: js

def Members.values (depth : Nat) : Members → Except Fault (List (String × Json))
  | .stop e =>
    match e.fault with
    | some f => .error f
    | none => .ok []
  | .member key d rest => do
    let name ← key.content
    let j ← d.value depth
    let members ← rest.values depth
    return (name, j) :: members

end

/-- The one value that a text is. -/
def ofBytes (text : List UInt8) : Except Fault Json := do
  let (d, more) := Document.parse text
  let j ← d.value maxDepth
  if more then throw .trailingCharacters
  return j

def ofText (text : String) : Except Fault Json := ofBytes (Text.Utf8.encode text)

end RegistrySync.Json
