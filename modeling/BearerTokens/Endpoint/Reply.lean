import BearerTokens.Credential.Basic
import BearerTokens.Endpoint.Client

/-! # Replies of a token endpoint

A reply with status 200 carries a token and its lifetime; any other carries an error code.  The
first stage that fails decides the fault: transport, status, content type, body, lifetime.
-/

namespace BearerTokens.Endpoint

structure Grant where
  token : String
  /-- Lifetime in seconds. -/
  lifetime : Option Nat

def word? (v : Json) : Option Nat := do
  let n ← v.int?
  if 0 ≤ n then some n.toNat else none

def grant? (body : String) : Option Grant := do
  let v ← Json.readFirst? body
  if !v.isSound Json.maxDepth then none
  else
    match v with
    | .object members => do
      let names := ["access_token", "token_type", "expires_in", "refresh_token", "scope"]
      match ← Json.objectFields? names members with
      | [some token, some kind, lifetime, refresh, scope] => do
        let token ← token.text?
        let _ ← kind.text?
        let lifetime ← Json.optional? word? lifetime
        let _ ← Json.optional? Json.text? refresh
        let _ ← Json.optional? Json.text? scope
        some { token, lifetime }
      | _ => none
    | _ => none

/-- What an error reply says: its code, with the description in brackets. -/
def refusal? (body : String) : Option String := do
  let v ← Json.readFirst? body
  match ← v.fields? ["error", "error_description", "error_uri"] with
  | [some code, description, uri] => do
    let code ← code.text?
    let description ← Json.optional? Json.text? description
    let _ ← Json.optional? Json.text? uri
    some (match description with
      | some d => code ++ " (" ++ d ++ ")"
      | none => code)
  | _ => none

/-- The spelling of a header value in a message: in quotes, with the bytes that are no text as
numbers. -/
def shownValue (s : String) : String :=
  let shownByte (b : UInt8) : List Char :=
    if b = 34 then ['\\', '"']
    else if b = 9 ∨ (32 ≤ b ∧ b < 127) then [Char.ofNat b.toNat]
    else ['\\', 'x', Text.hexDigit (b.toNat / 16), Text.hexDigit (b.toNat % 16)]
  String.ofList ('"' :: (Text.utf8 s).flatMap shownByte ++ ['"'])

abbrev jsonType : String := "application/json"

/-- A content type that a token reply may not have. -/
def wrongType? (r : Http.Response) : Option String :=
  match r.headers.first? "content-type" with
  | none => none
  | some value =>
    if Http.isReadable value && jsonType.toList.isPrefixOf value.toLower.toList then none
    else some value

def tokenAt (g : Grant) (now : Instant) : Answer :=
  match g.lifetime with
  | none => .error (.config .lifetimeMissing)
  | some n =>
    if UInt64.size / 2 ≤ n then .error (.config .lifetimeTooLong)
    else if n = 0 then .error (.config .lifetimeNotPositive)
    else
      match now.after? (.ofSeconds n) with
      | some expiry => .ok (Token.ofText g.token expiry)
      | none => .error (.config .lifetimeTooLong)

def answerOf (r : Http.Response) (now : Instant) : Answer :=
  if r.status ≠ 200 then
    if r.body.isEmpty then .error (.unexpected "server returned empty error response")
    else
      match refusal? r.body with
      | some reason => .error (.rejected reason)
      | none => .error .malformed
  else
    match wrongType? r with
    | some value =>
      .error (.unexpected ("unexpected response Content-Type: " ++ shownValue value ++
        ", should be `" ++ jsonType ++ "`"))
    | none =>
      if r.body.isEmpty then .error (.unexpected "server returned empty response body")
      else
        match grant? r.body with
        | some g => tokenAt g now
        | none => .error .malformed

def answer (d : Http.Delivery) (now : Instant) : Answer :=
  match d with
  | .error fault => .error (.transport fault)
  | .ok response => answerOf response now

/-- What a client asks and answers: the request that it hands over, if any, and the answer that a
delivery gives. -/
def acquire (c : Client) (context : Context) (delivery : Http.Delivery)
    (now : Instant) : Option Http.Request × Answer :=
  match c.request context with
  | .error fault => (none, .error fault)
  | .ok request => (some request, answer delivery now)

end BearerTokens.Endpoint
