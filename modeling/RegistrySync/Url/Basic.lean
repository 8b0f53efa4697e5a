import RegistrySync.Url.Form

/-!
Web addresses.

All parts are kept as they are written, that is with their escapes.
-/

namespace RegistrySync

structure Url where
  isSecure : Bool
  username : String
  password : String
  host : String
  /-- The port, unless it is the one of the scheme. -/
  port : Option Nat
  /-- The segments of the path, at least one. -/
  path : List String
  query : Option String
  fragment : Option String
  deriving DecidableEq, Repr

namespace Url

def scheme (u : Url) : String := if u.isSecure then "https" else "http"

def userInfo (u : Url) : String :=
  if u.username.isEmpty && u.password.isEmpty then ""
  else if u.password.isEmpty then u.username ++ "@"
  else u.username ++ ":" ++ u.password ++ "@"

def portText : Option Nat → String
  | none => ""
  | some n => ":" ++ toString n

def pathText (u : Url) : String := "/" ++ Text.joinWith "/" u.path

/-- Path and query, as they are sent. -/
def target (u : Url) : String :=
  u.pathText ++ match u.query with
    | none => ""
    | some q => "?" ++ q

def text (u : Url) : String :=
  u.scheme ++ "://" ++ u.userInfo ++ u.host ++ portText u.port ++ u.target ++
    match u.fragment with
    | none => ""
    | some f => "#" ++ f

/-- The address with further pairs in its query. -/
def withPairs (u : Url) (pairs : List (String × String)) : Url :=
  match pairs with
  | [] => u
  | _ =>
    let more := String.ofList (formPairs pairs)
    { u with
      query := match u.query with
        | none => some more
        | some "" => some more
        | some q => some (q ++ "&" ++ more) }

/-- The pairs in the query. -/
def pairs (u : Url) : List (String × String) := readPairs (u.query.getD "").toList

/-- The address without the user. -/
def withoutUser (u : Url) : Url := { u with username := "", password := "" }

end Url

end RegistrySync
