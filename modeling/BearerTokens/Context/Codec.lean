import BearerTokens.Context
import BearerTokens.Json.Decode

/-! # Contexts in JSON

A context is a record with the scopes, which must be there, and two fields that are left out when
absent.
-/

namespace BearerTokens.Context

def fieldNames : List String := ["scopes", "claims", "correlation_id"]

def optionalField (name : String) : Option String → List (String × Json)
  | some s => [(name, .text s)]
  | none => []

def toJson (c : Context) : Json :=
  .ofFields (("scopes", .array (c.scopes.map .text)) ::
    (optionalField "claims" c.claims ++ optionalField "correlation_id" c.correlation))

def ofJson? (v : Json) : Option Context := do
  match ← v.fields? fieldNames with
  | [some scopes, claims, correlation] => do
    let scopes ← scopes.texts?
    let claims ← Json.optional? Json.text? claims
    let correlation ← Json.optional? Json.text? correlation
    some { scopes, claims, correlation }
  | _ => none

def write (c : Context) : String := c.toJson.write

def read? (s : String) : Option Context := (Json.read? s).bind ofJson?

end BearerTokens.Context
