import RegistrySync.Url.Basic
import RegistrySync.Url.Host

/-!
Reading web addresses.

The reading is forgiving, as browsers are: line breaks and tabs are dropped, backslashes count as
slashes, slashes before the host may be missing or too many, and a path is freed of its dot
segments. Addresses with other schemes are read as far as is needed to tell whether they are
addresses.
-/

namespace RegistrySync.Url

open Text

/-- The text without blanks at its ends and without line breaks and tabs. -/
def tidy (cs : List Char) : List Char :=
  (trimBy (fun c => c.toNat ≤ 0x20) cs).filter fun c => c ∉ ['\t', '\n', '\r']

def isSchemeChar (c : Char) : Bool := c.isAlphanum || c == '+' || c == '-' || c == '.'

/-- The scheme in lower case, and what follows its colon. -/
def cutScheme (cs : List Char) : Option (String × List Char) :=
  match cutFirst ':' cs with
  | some (c :: scheme, rest) =>
    if c.isAlpha && scheme.all isSchemeChar then
      some (String.ofList ((c :: scheme).map Char.toLower), rest)
    else none
  | _ => none

def isSlash (c : Char) : Bool := c == '/' || c == '\\'

def isAuthorityEnd (c : Char) : Bool := isSlash c || c == '?' || c == '#'

/-- The escaped user name and password. -/
def readUser (cs : List Char) : String × String :=
  let (name, password) := (cutFirst ':' cs).getD (cs, [])
  (String.ofList (escape inUserInfo name), String.ofList (escape inUserInfo password))

/-- The host and what follows its colon; colons in brackets belong to the host. -/
def cutHost (inBrackets : Bool) : List Char → List Char × Option (List Char)
  | [] => ([], none)
  | c :: cs =>
    if c = ':' ∧ ¬ inBrackets then ([], some cs)
    else
      let (host, port) := cutHost (if c = '[' then true else if c = ']' then false else inBrackets) cs
      (c :: host, port)

/-- A port number; no digits mean none. -/
def readPort (cs : List Char) : Except Fault (Option Nat) :=
  if cs.isEmpty then .ok none
  else match inRadix 10 cs with
    | some n => if n < 65536 then .ok (some n) else .error .badPort
    | none => .error .badPort

/-! Paths. -/

def isDot (segment : List Char) : Bool :=
  ["." , "%2e"].contains (String.ofList (segment.map Char.toLower))

def isDoubleDot (segment : List Char) : Bool :=
  ["..", ".%2e", "%2e.", "%2e%2e"].contains (String.ofList (segment.map Char.toLower))

/-- A segment like a drive, which dots do not remove. -/
def isDrive (segment : List Char) : Bool :=
  match segment with
  | [c, d] => c.isAlpha && (d == ':' || d == '|')
  | _ => false

/-- Goes up one segment. -/
def shorten (done : List (List Char)) : List (List Char) :=
  match done with
  | [] => []
  | s :: rest => if isDrive s then s :: rest else rest

/-- Works off dot segments; `done` are the segments so far, the last one first. -/
def settle (done : List (List Char)) : List (List Char) → List (List Char)
  | [] => done.reverse
  | [s] =>
    if isDoubleDot s then ([] :: shorten done).reverse
    else if isDot s then ([] :: done).reverse
    else (s :: done).reverse
  | s :: rest =>
    if isDoubleDot s then settle (shorten done) rest
    else if isDot s then settle done rest
    else settle (s :: done) rest

/-- The segments of a path that starts behind its first slash. -/
def readPath (cs : List Char) : List String :=
  let segments := pieces '/' (cs.map fun c => if c = '\\' then '/' else c)
  (settle [] (segments.map (escape inPath))).map String.ofList

/-! Addresses. -/

/-- The port that an address with a scheme has anyway. -/
def schemePort (isSecure : Bool) : Nat := if isSecure then 443 else 80

/-- The user, if there is one, and the rest of an authority. -/
def cutUser (authority : List Char) : (String × String) × List Char :=
  match cutLast '@' authority with
  | some (user, rest) => (readUser user, rest)
  | none => (("", ""), authority)

/-- Path, query and fragment behind an authority. -/
def readTail (u : Url) (cs : List Char) : Url :=
  let (cs, fragment) := match cutFirst '#' cs with
    | some (a, b) => (a, some (String.ofList (escape inFragment b)))
    | none => (cs, none)
  let (cs, query) := match cutFirst '?' cs with
    | some (a, b) => (a, some (String.ofList (escape inQuery b)))
    | none => (cs, none)
  let path := match cs with
    | c :: rest => if isSlash c then rest else c :: rest
    | [] => []
  { u with path := readPath path, query, fragment }

/-- A web address from behind its scheme. -/
def readWeb (isSecure : Bool) (cs : List Char) : Except Fault Url := do
  let cs := cs.dropWhile isSlash
  let authority := cs.takeWhile (!isAuthorityEnd ·)
  let ((username, password), authority) := cutUser authority
  let (host, port) := cutHost false authority
  let host ← readHost host
  let port ← readPort (port.getD [])
  let port := port.filter (· != schemePort isSecure)
  return readTail ⟨isSecure, username, password, host, port, [""], none, none⟩
    (cs.dropWhile (!isAuthorityEnd ·))

/-- What an address of another scheme has to fulfil. -/
def checkForeign (cs : List Char) : Except Fault Unit := do
  match stripLead ['/', '/'] cs with
  | none => return
  | some cs =>
    let isEnd (c : Char) : Bool := c == '/' || c == '?' || c == '#'
    let authority := cs.takeWhile (!isEnd ·)
    if authority = ['@'] ∧ cs ≠ authority then throw .emptyHost
    let (user, authority) := cutUser authority
    let (host, port) := cutHost false authority
    checkOpaqueHost host
    if host.isEmpty ∧ (port.isSome ∨ user ≠ ("", "")) then throw .emptyHost
    let _ ← readPort ((port.getD []).takeWhile (· != '\\'))

/-- What an address of a file has to fulfil. -/
def checkFile (cs : List Char) : Except Fault Unit :=
  match cs with
  | a :: b :: rest =>
    if isSlash a && isSlash b then
      let host := rest.takeWhile (!isAuthorityEnd ·)
      if host.isEmpty || isDrive host then .ok () else (readHost host).map fun _ => ()
    else .ok ()
  | _ => .ok ()

/-- An address: on the web, or with another scheme. -/
inductive Parsed where
  | web (u : Url)
  | foreign (scheme : String)
  deriving DecidableEq, Repr

def parse (s : String) : Except Fault Parsed :=
  match cutScheme (tidy s.toList) with
  | none => .error .noScheme
  | some (scheme, rest) =>
    match scheme with
    | "http" => (readWeb false rest).map .web
    | "https" => (readWeb true rest).map .web
    | "ws" | "wss" | "ftp" => (readWeb false rest).map fun _ => .foreign scheme
    | "file" => (checkFile rest).map fun _ => .foreign scheme
    | _ => (checkForeign rest).map fun _ => .foreign scheme

/-- A web address. -/
def parseWeb? (s : String) : Option Url :=
  match parse s with
  | .ok (.web u) => some u
  | _ => none

end RegistrySync.Url
