import BearerTokens.Cache.Step
import BearerTokens.Signing.Responder

/-! # Sending signed requests

A send asks the cache for a header, hands the signed request over, and answers at most one
challenge by asking for another header and handing the request over again.  Sends share a cache and
a responder; their actions may come in any order, between those of the cache's calls and renewals.
-/

namespace BearerTokens.Signing

open Http

abbrev SendId := Nat

/-- Where a send is on its way.  `again` tells the second attempt from the first. -/
inductive Point where
  | starting
  /-- Waits for the header that a call of the cache brings. -/
  | acquiring (again : Bool) (call : Cache.CallId)
  /-- The request has been handed over. -/
  | awaiting (again : Bool)
  /-- The responder is to be asked about a response. -/
  | judging (response : Response)
  | done (answer : Except Fault Response)

structure Send where
  request : Request
  /-- A runtime is around the send. -/
  inside : Bool := false
  /-- The cache has a runtime. -/
  hasRuntime : Bool := false
  /-- The contexts of the attempts, in order. -/
  contexts : List Context := []
  cancelled : Bool := false
  point : Point := .starting

inductive Exchange where
  /-- An attempt was begun with a context. -/
  | attempted (id : SendId) (again : Bool) (context : Context) (call : Cache.CallId)
  /-- A signed request was handed over. -/
  | handed (id : SendId) (again : Bool) (request : Request)
  | delivered (id : SendId) (again : Bool) (delivery : Delivery)
  /-- The responder gave a context for a response, or none. -/
  | judged (id : SendId) (response : Response) (next : Option Context)

structure Policy where
  scopes : List String
  /-- The header that names a request. -/
  idHeader : String := "x-ms-client-request-id"

structure State (Memory : Type) where
  cache : Cache.State := {}
  memory : Memory
  sends : List Send := []
  history : List Exchange := []

inductive Action where
  | send (request : Request) (inside hasRuntime : Bool)
  | cancel (id : SendId)
  /-- The send asks the cache for its first header. -/
  | sign (id : SendId)
  /-- The send sees the end of its call and hands the signed request over. -/
  | submit (id : SendId)
  | deliver (id : SendId) (delivery : Delivery)
  /-- The send puts the response before the responder. -/
  | judge (id : SendId)
  /-- Something happens in the cache. -/
  | cache (action : Cache.Action)

/-- Tokens travel over `https` alone. -/
def insecure? (r : Request) : Option Fault :=
  match r.uri.scheme with
  | some scheme => if Text.sameLetters scheme "https" then none else some (.insecure scheme)
  | none => some (.insecure "")

/-- The context of a request before the responder has seen it. -/
def Policy.contextFor (p : Policy) (r : Request) : Context :=
  { scopes := p.scopes, correlation := r.headers.firstReadable? p.idHeader }

/-- The copy of a request that is kept for a second attempt. -/
def duplicate (r : Request) : Request :=
  { method := r.method, uri := r.uri, version := r.version, headers := r.headers, body := r.body }

def requestFor (r : Request) (again : Bool) : Request := if again then duplicate r else r

def authorize (r : Request) (header : String) : Except Fault Request :=
  if isFieldValue header then
    .ok { r with headers := r.headers.replace authorizationHeader header }
  else .error (.config .badHeader)

namespace State

variable {Memory : Type} (h : Responder Memory) (t : Timing) (p : Policy) (s : State Memory)

def record (e : Exchange) : State Memory := { s with history := s.history ++ [e] }

def sent : List Request :=
  s.history.filterMap fun
    | .handed _ _ request => some request
    | _ => none

def move (i : SendId) (point : Point) : State Memory :=
  { s with sends := s.sends.modify i fun send => { send with point } }

def attempt (i : SendId) (send : Send) (context : Context) (again : Bool) : State Memory :=
  let c := s.cache.calls.length
  let called := s.cache.call context .async send.inside send.hasRuntime
  let next : Send :=
    { send with contexts := send.contexts ++ [context], point := .acquiring again c }
  { s with
    cache := if send.cancelled then called.cancel c else called
    sends := s.sends.set i next }.record (.attempted i again context c)

def cancelSend (i : SendId) : State Memory :=
  let s : State Memory :=
    { s with sends := s.sends.modify i fun send => { send with cancelled := true } }
  match s.sends[i]? with
  | some { point := .acquiring _ c, .. } => { s with cache := s.cache.cancel c }
  | _ => s

def signSend (i : SendId) : Option (State Memory) :=
  match s.sends[i]? with
  | some send =>
    match send.point, insecure? send.request with
    | .starting, some fault => some (s.move i (.done (.error fault)))
    | .starting, none =>
      let context := p.contextFor send.request
      let first := h.before s.memory send.request context
      let s : State Memory := { s with memory := h.noted s.memory send.request context }
      some (s.attempt i send first false)
    | _, _ => none
  | none => none

def submitSend (i : SendId) : Option (State Memory) :=
  match s.sends[i]? with
  | some { request, point := .acquiring again c, .. } =>
    match s.cache.calls[c]? with
    | some { point := .done (.returned (.ok header)), .. } =>
      match authorize (requestFor request again) header with
      | .ok signed => some ((s.record (.handed i again signed)).move i (.awaiting again))
      | .error fault => some (s.move i (.done (.error fault)))
    | some { point := .done (.returned (.error fault)), .. } =>
      some (s.move i (.done (.error fault)))
    | _ => none
  | _ => none

def deliverSend (i : SendId) (delivery : Delivery) : Option (State Memory) :=
  match s.sends[i]? with
  | some { point := .awaiting again, .. } =>
    let s := s.record (.delivered i again delivery)
    match delivery with
    | .error fault => some (s.move i (.done (.error (.transport fault))))
    | .ok response =>
      if again || !response.mayChallenge then some (s.move i (.done (.ok response)))
      else some (s.move i (.judging response))
  | _ => none

def judgeSend (i : SendId) : Option (State Memory) :=
  match s.sends[i]? with
  | some send =>
    match send.point, send.contexts.getLast? with
    | .judging response, some context =>
      let (memory, next) := h.answer s.memory (duplicate send.request) response context
      let s : State Memory := { s with memory }.record (.judged i response next)
      match next with
      | none => some (s.move i (.done (.ok response)))
      | some next =>
        let s : State Memory := { s with cache := s.cache.report [.answering next] }
        some (s.attempt i send next true)
    | _, _ => none
  | none => none

def step : Action → Option (State Memory)
  | .send request inside hasRuntime =>
    some { s with sends := s.sends ++ [{ request, inside, hasRuntime }] }
  | .cancel i => some (s.cancelSend i)
  | .sign i => s.signSend h p i
  | .submit i => s.submitSend i
  | .deliver i delivery => s.deliverSend i delivery
  | .judge i => s.judgeSend h i
  | .cache action => (s.cache.step t action).map fun cache => { s with cache }

def run? (actions : List Action) : Option (State Memory) := actions.foldlM (step h t p) s

end State

end BearerTokens.Signing
