import RegistrySync.Base64
import RegistrySync.Error
import RegistrySync.Schema.Document
import RegistrySync.Schema.Json
import RegistrySync.Text.Blank

/-!
Credentials for registries, in the encoded form in which they are kept and sent.

The encoded form is the base64 text of a JSON record, from which empty fields are left out. It is
read in either alphabet.
-/

namespace RegistrySync

/-- A login issued for a limited time. -/
structure Login where
  username : String
  password : String
  deriving DecidableEq, Repr

structure Credential where
  username : String
  password : String
  serverAddress : String
  deriving DecidableEq, Repr

namespace Credential

def ofLogin (l : Login) (serverAddress : String) : Credential :=
  ⟨l.username, l.password, serverAddress⟩

/-- A text that may be missing and is left out when it is empty. -/
def field (name : String) : Field String := ⟨name, some "", String.isEmpty⟩

def fields : Fields (String × String × String × Unit) :=
  .cons (field "username") .text <| .cons (field "password") .text <|
    .cons (field "serveraddress") .text .nil

def schema : Schema Credential :=
  .record "RegistryAuth" fields (fun p => ⟨p.1, p.2.1, p.2.2.1⟩)
    (fun c => (c.username, c.password, c.serverAddress, ()))

/-- The JSON text that is encoded. -/
def json (c : Credential) : String := (schema.toJson c).print

/-- A text of ASCII bytes. -/
def ofAscii (bytes : List UInt8) : String := String.ofList (bytes.map fun b => Char.ofNat b.toNat)

def encode (c : Credential) : String :=
  ofAscii (Base64.encode Base64.standard (Text.Utf8.encode c.json))

def decode (encoded : String) : Except Error Credential :=
  match Base64.decodeEither (Text.Utf8.encode (Text.trim encoded)) with
  | .error f => .error (.auth ("Invalid credential encoding: " ++ f.message))
  | .ok bytes =>
    match schema.ofBytes bytes with
    | .error f => .error (.auth ("Invalid credential content: " ++ f.message))
    | .ok c => .ok c

/-- The encoded empty record. -/
def anonymous : String := "e30="

/-- What is sent for a kept credential; a blank one is anonymous. -/
def headerValue (encoded : String) : String :=
  if Text.onlyBlanks encoded then anonymous else encoded

example : encode ⟨"", "", ""⟩ = anonymous := by decide +kernel

end Credential

end RegistrySync
