import BearerTokens.Json.Decode
import BearerTokens.Token

/-! # Secrets and tokens in JSON -/

namespace BearerTokens

/-- The JSON text of a secret shows it: a stored secret can be read back. -/
def Secret.write (s : Secret) : String := (Json.text s.value).write

def Secret.read? (s : String) : Option Secret := do
  let v ← Json.read? s
  (v.text?).map Secret.mk

def Timestamp.toJson (t : Timestamp) : Json := .array (t.parts.map .int)

def Timestamp.ofJson? (v : Json) : Option Timestamp := do
  let items ← v.items?
  let parts ← items.mapM Json.int?
  Timestamp.ofParts? parts

namespace Token

def fieldNames : List String := ["token", "expires_on"]

def toJson (t : Token) : Json :=
  .ofFields [("token", .text t.secret.value), ("expires_on", t.expiry.toJson)]

def ofJson? (v : Json) : Option Token := do
  match ← v.fields? fieldNames with
  | [some secret, some expiry] => do
    let secret ← secret.text?
    let expiry ← Timestamp.ofJson? expiry
    some { secret := ⟨secret⟩, expiry }
  | _ => none

def write (t : Token) : String := t.toJson.write

def read? (s : String) : Option Token := (Json.read? s).bind ofJson?

end Token

end BearerTokens
