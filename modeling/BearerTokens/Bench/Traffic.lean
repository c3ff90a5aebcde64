import BearerTokens.Bench.Scenario
import BearerTokens.Signing.Send

/-! # Scenarios for signed requests

Requests go out one at a time through a policy whose credential and transport follow scripts.  The
transport answers at once; when its script is used up it answers with an empty response.
-/

namespace BearerTokens.Bench

open Cache Http Signing

inductive Route where
  | async
  | blocking
  | blockingInside
deriving DecidableEq

inductive TrafficStep where
  | send (request : Request) (cancelled : Bool) (route : Route)
  | advance (d : Duration)
  | describe

inductive TrafficResult where
  | nothing
  | answer (answer : Except Fault Response)
  /-- The send ended without an answer. -/
  | crashed
  | disclosure (d : Disclosure)

structure TrafficObservation where
  result : TrafficResult
  sent : List Request
  acquired : List Context
  metrics : Metrics
  context : Option Context
  log : List Entry

structure Traffic (Memory : Type) where
  bench : Bench
  responder : Responder Memory
  policy : Policy
  sending : Signing.State Memory
  deliveries : List Delivery

namespace Traffic

variable {Memory : Type} (s : Traffic Memory)

def act (a : Signing.Action) : Traffic Memory :=
  match { s.sending with cache := s.bench.state }.step s.responder s.bench.timing s.policy a with
  | some sending => { s with sending, bench := { s.bench with state := sending.cache } }
  | none => s

def sendAt (i : SendId) : Signing.Point :=
  ((s.sending.sends[i]?).map (·.point)).getD .starting

def runCall (c : CallId) : Traffic Memory :=
  let b := s.bench
  let t := b.tasks.length
  let task : Task := { job := .call c }
  let b := { b with tasks := b.tasks ++ [task], main := some t, mainReady := true }
  let b := Bench.runMainFor t b.rounds b
  { s with bench := { b with main := none, mainReady := false } }

def deliver (i : SendId) : Traffic Memory :=
  match s.deliveries with
  | [] => s.act (.deliver i (.ok {}))
  | d :: rest => { s with deliveries := rest }.act (.deliver i d)

/-- One attempt of a send: its call, the request, and what comes back.  Who asks the call to cancel
asks the send. -/
def attempt (i : SendId) : Traffic Memory :=
  match s.sendAt i with
  | .acquiring _ c =>
    let s := s.runCall c
    let s := if s.bench.isCancelled c then s.act (.cancel i) else s
    let s := s.act (.submit i)
    match s.sendAt i with
    | .awaiting _ => s.deliver i
    | _ => s
  | _ => s

def send (request : Request) (cancelled : Bool) : Traffic Memory × TrafficResult :=
  let i := s.sending.sends.length
  let s := s.act (.send request s.bench.hosted (s.bench.own ≠ .absent))
  let s := if cancelled then s.act (.cancel i) else s
  let s := ((s.act (.sign i)).attempt i)
  let s := ((s.act (.judge i)).attempt i)
  match s.sendAt i with
  | .done answer => (s, .answer answer)
  | _ => (s, .crashed)

def refusal? (route : Route) : Option ConfigFault :=
  match route with
  | .async => none
  | .blocking => Style.blocking.refusal? false (s.bench.own ≠ .absent)
  | .blockingInside => Style.blocking.refusal? true (s.bench.own ≠ .absent)

def perform : TrafficStep → Except ScenarioFault (Traffic Memory × TrafficResult)
  | .send request cancelled route =>
    match s.refusal? route with
    | some fault => .ok (s, .answer (.error (.config fault)))
    | none => .ok (s.send request cancelled)
  | .advance d =>
    match s.bench.wall.advance? d with
    | some wall => .ok ({ s with bench := { s.bench with wall } }, .nothing)
    | none => .error .crashed
  | .describe =>
    let scopes := ", ".intercalate (s.policy.scopes.map Text.quote)
    .ok (s, .disclosure (.of (s.bench.state.text ++ ", scopes: " ++ scopes)))

def observe (step : TrafficStep) : Except ScenarioFault (Traffic Memory × TrafficObservation) := do
  let (after, result) ← s.perform step
  let after := { after with bench := after.bench.drain }
  let state := after.bench.state
  let news : Cache.State :=
    { state with history := state.history.drop s.bench.state.history.length }
  .ok (after,
    { result
      sent := after.sending.sent.drop s.sending.sent.length
      acquired := Scenario.askedContexts news.history
      metrics := state.metrics
      context := state.holding.context
      log := news.log })

def observeAll : Traffic Memory → List TrafficStep →
    Except ScenarioFault (List TrafficObservation)
  | _, [] => .ok []
  | s, step :: rest => do
    let (s, seen) ← s.observe step
    let others ← observeAll s rest
    .ok (seen :: others)

end Traffic

def echoResponder : Responder Unit where
  before _ request context := context.withClaims ("before " ++ request.uri.path)
  answer _ request response context :=
    ((), some (context.withClaims (context.claims.getD "" ++ " then " ++ toString response.status ++
      " " ++ request.method ++ " with " ++ toString request.headers.length ++ " headers")))

end BearerTokens.Bench
