import BearerTokens.Challenge.Response
import BearerTokens.Context

/-! # Responders to challenges

A responder chooses the context that signs a request, and the one that answers a challenge.  It may
remember what it has learned.  Two are given: one that forwards claims, and one that learns which
scope an authority wants.
-/

namespace BearerTokens.Signing

open Http

structure Responder (Memory : Type) where
  /-- The context of the first attempt. -/
  before : Memory → Request → Context → Context
  /-- What is remembered once that context is chosen. -/
  noted : Memory → Request → Context → Memory := fun memory _ _ => memory
  /-- The context that answers the challenge of a response to an attempt with a context, or nothing
  to let the response stand. -/
  answer : Memory → Request → Response → Context → Memory × Option Context

def claimsResponder : Responder Unit where
  before _ _ context := context
  answer _ _ response context := ((), response.claims?.map context.withClaims)

abbrev scopeSuffix : String := "/.default"

abbrev httpsPort : Nat := 443

abbrev Learned := List (String × String)

namespace Learned

def scopeFor (l : Learned) (authority : String) : Option String := l.lookup authority

def insert (l : Learned) (authority scope : String) : Learned :=
  (authority, scope) :: l.filter (·.1 != authority)

theorem scopeFor_insert_self (l : Learned) (a s : String) :
    (l.insert a s).scopeFor a = some s := by simp [insert, scopeFor]

end Learned

def authority? (r : Request) : Option String :=
  r.uri.host?.map fun host => host ++ ":" ++ toString (r.uri.port?.getD httpsPort)

/-- The scope that a challenge asks for: its scope, else its resource without slashes at the end and
with the suffix. -/
def challengedScope (c : Challenge) : Option String :=
  match c.scope? with
  | some scope => some scope
  | none => c.resource?.map fun resource =>
      String.ofList (resource.toList.reverse.dropWhile (· == '/')).reverse ++ scopeSuffix

def challengedContext (c : Challenge) (context : Context) : Context :=
  let narrowed := match challengedScope c with
    | some scope => context.withScopes [scope]
    | none => context
  match c.claims? with
  | some claims => narrowed.withClaims claims
  | none => narrowed

def learnFrom (l : Learned) (r : Request) (c : Challenge) : Learned :=
  match challengedScope c, authority? r with
  | some scope, some authority => l.insert authority scope
  | _, _ => l

def bearerChallenge? (r : Response) : Option Challenge :=
  r.challenges.find? (·.hasScheme bearerScheme)

/-- Asks for the scope that an authority has named before, and learns it from challenges.  A context
that is equivalent to the rejected one is no answer. -/
def scopeResponder : Responder Learned where
  before learned request context :=
    match (authority? request).bind learned.scopeFor with
    | some scope => context.withScopes [scope]
    | none => context
  answer learned request response context :=
    match bearerChallenge? response with
    | none => (learned, none)
    | some challenge =>
      let next := challengedContext challenge context
      (learnFrom learned request challenge,
        if next.Equivalent context then none else some next)

end BearerTokens.Signing
