import RegistrySync.Yaml.Node

/-!
From tokens to the one document of a text.

Every production reads some node or the rest of one, and fails where the tokens have no such form.
Fuel bounds the nesting of calls; every second call at least takes a token, so a small multiple of
their number is enough.
-/

namespace RegistrySync.Yaml

/-- What a production reads from and keeps. -/
structure Source where
  tokens : List Token
  /-- The numbers of anchors by name. -/
  anchors : List (String × Nat)
  /-- What tags with a handle start with. -/
  handles : List (String × String)

abbrev Production := StateT Source Option

namespace Production

/-- The next token. -/
def peek : Production (Option Token) := do return (← get).tokens.head?

/-- Passes over a token. -/
def skip : Production Unit := modify fun s => { s with tokens := s.tokens.drop 1 }

/-- Passes over the token if it comes next. -/
def accept (t : Token) : Production Bool := do
  if (← peek) = some t then
    skip
    return true
  return false

/-- The number of a new anchor: the count of names before. -/
def declare (name : String) : Production Nat := do
  let s ← get
  let names := s.anchors.filter (·.1 ≠ name)
  set { s with anchors := (name, s.anchors.length) :: names }
  return s.anchors.length

def anchor : Production (Option Nat) := do
  match ← peek with
  | some (.anchor name) =>
    skip
    return some (← declare name)
  | _ => return none

/-- A tag with its handle resolved; none if there is no such handle. -/
def tag : Production (Option String) := do
  match ← peek with
  | some (.tag handle suffix) =>
    skip
    if handle.isEmpty then return some suffix
    match (← get).handles.lookup handle with
    | some start => return some (start ++ suffix)
    | none => failure
  | _ => return none

/-- Anchor and tag in either order. -/
def properties : Production (Option Nat × Option String) := do
  match ← anchor with
  | some a => return (some a, ← tag)
  | none =>
    match ← tag with
    | some t => return (← anchor, some t)
    | none => return (none, none)

/-- Where the node of an item or member is left out in a block. -/
def endsBlockItem (t : Option Token) : Bool :=
  t ∈ [some .key, some .value, some .blockEnd]

/-- The tag `!` says no more than that there is none. -/
def scalarTag (t : Option String) : Option String := t.filter (· ≠ "!")

mutual

/-- A node. `block` says that it may be a block, `flush` that it may be a list whose dashes stand in
the column of the key. -/
def node (block flush : Bool) : Nat → Production Node
  | 0 => failure
  | n + 1 => do
    if let some (.alias name) ← peek then
      skip
      match (← get).anchors.lookup name with
      | some a => return .alias a
      | none => failure
    let (anchor, tag) ← properties
    match ← peek with
    | some .dash =>
      if flush then return .list anchor (← flushItems n)
      else if anchor.isSome || tag.isSome then return .scalar anchor { Scalar.empty with tag := tag }
      else failure
    | some (.scalar text style) =>
      skip
      return .scalar anchor ⟨text, style, scalarTag tag⟩
    | some .openList =>
      skip
      if ← accept .closeList then return .list anchor .nil
      return .list anchor (← flowItems n)
    | some .openRecord =>
      skip
      if ← accept .closeRecord then return .record anchor .nil
      return .record anchor (← flowMembers n)
    | t =>
      if block && t = some .blockList then
        skip
        return .list anchor (← blockItems n)
      else if block && t = some .blockRecord then
        skip
        return .record anchor (← blockMembers n)
      else if anchor.isSome || tag.isSome then
        return .scalar anchor { Scalar.empty with tag := tag }
      else failure

/-- Items behind dashes, up to the end of the block. -/
def blockItems : Nat → Production Nodes
  | 0 => failure
  | n + 1 => do
    if ← accept .dash then
      let t ← peek
      let item ← if t = some .dash || t = some .blockEnd then pure Node.empty else node true false n
      return .cons item (← blockItems n)
    else if ← accept .blockEnd then return .nil
    else failure

/-- Items behind dashes, up to whatever comes behind the last one. -/
def flushItems : Nat → Production Nodes
  | 0 => failure
  | n + 1 => do
    if ← accept .dash then
      let t ← peek
      let item ← if t = some .dash || endsBlockItem t then pure Node.empty else node true false n
      return .cons item (← flushItems n)
    else return .nil

/-- Keys and values, up to the end of the block. -/
def blockMembers : Nat → Production Members
  | 0 => failure
  | n + 1 => do
    if ← accept .key then
      let key ← if endsBlockItem (← peek) then pure Node.empty else node true true n
      let value ←
        if ← accept .value then
          if endsBlockItem (← peek) then pure Node.empty else node true true n
        else pure Node.empty
      return .cons key value (← blockMembers n)
    else if ← accept .blockEnd then return .nil
    else failure

/-- Items in brackets, from one of them on. A key makes an item a record of one member. -/
def flowItems : Nat → Production Nodes
  | 0 => failure
  | n + 1 => do
    let item ← if ← accept .key then pair n else node false false n
    if ← accept .closeList then return .cons item .nil
    else if ← accept .comma then
      if ← accept .closeList then return .cons item .nil
      return .cons item (← flowItems n)
    else failure

/-- A record of one member, behind its key token. A token that shows the key to be left out is
passed over with it. -/
def pair : Nat → Production Node
  | 0 => failure
  | n + 1 => do
    let ends (t : Option Token) : Bool := t = some .comma || t = some .closeList
    let t ← peek
    let key ←
      if t = some .value || ends t then
        skip
        pure Node.empty
      else node false false n
    let value ←
      if ← accept .value then
        if ends (← peek) then pure Node.empty else node false false n
      else pure Node.empty
    return .record none (.cons key value .nil)

/-- Members in braces, from one of them on. -/
def flowMembers : Nat → Production Members
  | 0 => failure
  | n + 1 => do
    let ends (t : Option Token) : Bool := t = some .comma || t = some .closeRecord
    let (key, value) ←
      if ← accept .key then
        let t ← peek
        let key ← if t = some .value || ends t then pure Node.empty else node false false n
        let value ←
          if ← accept .value then
            if ends (← peek) then pure Node.empty else node false false n
          else pure Node.empty
        pure (key, value)
      else pure (← node false false n, Node.empty)
    if ← accept .closeRecord then return .cons key value .nil
    else if ← accept .comma then
      if ← accept .closeRecord then return .cons key value .nil
      return .cons key value (← flowMembers n)
    else failure

end

/-- The handles that need no directive. -/
def commonHandles : List (String × String) := [("!", "!"), ("!!", "tag:yaml.org,2002:")]

/-- Directives: at most one version, which has to be known, and each handle once. -/
def directives (versioned : Bool) : Nat → Production Unit
  | 0 => failure
  | n + 1 => do
    match ← peek with
    | some (.version major minor) =>
      if versioned || !(major = 1 && (minor = 1 || minor = 2)) then failure
      skip
      directives true n
    | some (.handle h start) =>
      let s ← get
      if (s.handles.lookup h).isSome then failure
      set { s with tokens := s.tokens.drop 1, handles := s.handles ++ [(h, start)] }
      directives versioned n
    | _ => return ()

/-- Passes over marks that end documents. -/
def documentEnds : Nat → Production Unit
  | 0 => return ()
  | n + 1 => do if ← accept .documentEnd then documentEnds n

/-- The only document; nothing may follow it. -/
def document (fuel : Nat) : Production Node := do
  let first ← peek
  directives false fuel
  modify fun s => { s with handles := s.handles ++ commonHandles }
  let directed := match first with
    | some (.version _ _) => true
    | some (.handle _ _) => true
    | _ => false
  let root ←
    if ← accept .documentStart then
      match ← peek with
      | some .documentStart => pure Node.empty
      | some .documentEnd => pure Node.empty
      | some (.version _ _) => pure Node.empty
      | some (.handle _ _) => pure Node.empty
      | none => pure Node.empty
      | _ => node true false fuel
    else if directed then failure
    else if first.isNone then pure Node.empty
    else node true false fuel
  documentEnds fuel
  if (← peek).isSome then failure
  return root

end Production

/-- The root of the one document that a text is; none if the text is not well-formed or has several
documents. A text without any is an empty document. -/
def Node.ofText (text : String) : Option Node := do
  let tokens ← Token.scan text
  let (root, _) ← (Production.document (4 * tokens.length + 4)).run ⟨tokens, [], []⟩
  return root

end RegistrySync.Yaml
