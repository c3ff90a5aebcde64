import BearerTokens.Http.Message
import BearerTokens.Context
import BearerTokens.Fault
import BearerTokens.Json.Decode
import BearerTokens.Text.Base64
import BearerTokens.Token
import BearerTokens.Url.Reader

/-! # Clients of a token endpoint

A client asks a token endpoint for tokens in its own name.  It shows its identifier and secret in
an authorization header or in the body of the request.
-/

namespace BearerTokens.Endpoint

/-- Where a client shows its secret. -/
inductive AuthMethod where
  | basic
  | post
deriving DecidableEq, Inhabited

namespace AuthMethod

def name : AuthMethod → String
  | basic => "ClientSecretBasic"
  | post => "ClientSecretPost"

def ofName? (s : String) : Option AuthMethod :=
  if s = basic.name then some basic else if s = post.name then some post else none

/-- A method is its name, or an object with the name and null. -/
def ofJson? : Json → Option AuthMethod
  | .string (some s) => ofName? s
  | .object [(some s, .null)] => ofName? s
  | _ => none

end AuthMethod

structure Client where
  endpoint : Url
  id : String
  secret : Secret
  method : AuthMethod := .basic

namespace Client

def text (c : Client) : String :=
  "ClientSecretCredential \x7b token_endpoint: " ++ Text.quote c.endpoint.text ++
    ", client_id: " ++ Text.quote c.id ++ ", client_secret: " ++ c.secret.text ++
    ", auth_method: " ++ c.method.name ++ " \x7d"

/-- Identifier and secret in one text: each in form spelling, joined by a colon, in base64. -/
def basicValue (c : Client) : String :=
  let joined := Text.Form.encode c.id ++ ':' :: Text.Form.encode c.secret.value
  "Basic " ++ String.ofList
    (Text.Base64.encodePadded Text.Base64.standard (Text.utf8 (String.ofList joined)))

abbrev claimsParameter : String := "claims"

def pairs (c : Client) (context : Context) : List (String × String) :=
  ("grant_type", "client_credentials") ::
    ((if context.scopes.isEmpty then [] else [("scope", " ".intercalate context.scopes)]) ++
      (match c.method with
        | .basic => []
        | .post => [("client_id", c.id), ("client_secret", c.secret.value)]) ++
      (context.claims.map (claimsParameter, ·)).toList)

def headers (c : Client) : Http.Headers :=
  [("accept", "application/json"), ("content-type", "application/x-www-form-urlencoded")] ++
    match c.method with
    | .basic => [(Http.authorizationHeader, c.basicValue)]
    | .post => []

/-- The request for a token for a context.  The endpoint is read again from its text, as it may be
refused or settle further there, and has to be a request target. -/
def request (c : Client) (context : Context) : Except CredentialFault Http.Request := do
  let endpoint ← (Url.read c.endpoint.text).mapError fun _ => .config .badEndpoint
  let uri ← (Http.Uri.read endpoint.text).mapError fun fault =>
    .unexpected ("failed to prepare request: " ++ fault.message)
  .ok { method := "POST", uri, headers := c.headers, body := Text.Form.body (c.pairs context) }

end Client

end BearerTokens.Endpoint
