import BearerTokens.Cache.Holding
import BearerTokens.Credential.Basic

/-! # States of a cache with its callers

A state has what the cache holds, all flights, all calls and all background renewals, each at a
point of its way, together with the counters and the history of what has happened.  Nothing is ever
removed, so numbers stay valid.
-/

namespace BearerTokens.Cache

abbrev CallId := Nat

abbrev RenewalId := Nat

/-- How a call waits: as a task of a runtime, or as a thread that blocks. -/
inductive Style where
  | async
  | blocking
deriving DecidableEq

inductive Exit where
  | returned (answer : Except Fault String)
  /-- The caller dropped the call. -/
  | dropped
  /-- An instant left the calendar. -/
  | crashed

namespace Call

inductive Point where
  /-- About to read the clock and decide. -/
  | deciding
  /-- Owns a flight and has reported nothing yet. -/
  | opening (flight : FlightId)
  /-- Has reported the attempt and not called the credential. -/
  | calling (flight : FlightId)
  /-- The credential is at work. -/
  | asking (flight : FlightId)
  /-- Has reported the end of the attempt and not written the outcome. -/
  | closing (flight : FlightId) (outcome : Outcome) (exit : Exit)
  | waiting (flight : FlightId)
  /-- Is about to start the renewal on a flight and then serves a pass. -/
  | launching (flight source : FlightId) (pass : Pass)
  /-- Waits for a renewal that it settles itself. -/
  | settling (renewal : RenewalId) (exit : Exit)
  | done (exit : Exit)

end Call

structure Call where
  context : Context
  style : Style
  /-- A runtime is around the caller. -/
  inside : Bool := false
  /-- The cache has a runtime. -/
  hasRuntime : Bool := false
  /-- The caller has asked to cancel. -/
  cancelled : Bool := false
  point : Call.Point := .deciding

inductive Ending where
  | succeeded
  | fellBack
  | abandoned
deriving DecidableEq

namespace Renewal

inductive Point where
  /-- Handed to a runtime that has not looked at it. -/
  | queued
  /-- Has reported the attempt and not called the credential. -/
  | calling
  | asking
  /-- Has reported what there is to report and not written the outcome. -/
  | closing (outcome : Outcome) (ending : Ending)
  /-- Has written the outcome and is not counted. -/
  | written (ending : Ending)
  | settled (ending : Ending)

end Renewal

structure Renewal where
  context : Context
  /-- The pass that stays in use when the renewal brings none. -/
  previous : Pass
  /-- The flight that brought the previous pass. -/
  source : FlightId
  flight : FlightId
  point : Renewal.Point := .queued

inductive Requester where
  | call (id : CallId)
  | renewal (id : RenewalId)
deriving DecidableEq

inductive Happening where
  /-- An entry went to the log. -/
  | reported (entry : Entry)
  | decided (id : CallId) (now : Instant) (decision : Decision)
  | asked (requester : Requester) (context : Context)
  | answered (requester : Requester) (answer : Answer)
  /-- A renewal keeps the previous pass, at a clock reading. -/
  | kept (id : RenewalId) (now : Instant) (reason : Reason)
  | wrote (flight : FlightId) (outcome : Outcome)

structure State where
  holding : Holding := {}
  flights : List Flight := []
  calls : List Call := []
  renewals : List Renewal := []
  metrics : Metrics := {}
  history : List Happening := []

namespace State

def outcome? (s : State) (f : FlightId) : Option Outcome := (s.flights[f]?).bind (·.outcome)

def record (s : State) (lines : List Happening) : State :=
  { s with history := s.history ++ lines }

def report (s : State) (entries : List Entry) : State := s.record (entries.map .reported)

def count (s : State) (f : Metrics → Metrics) : State := { s with metrics := f s.metrics }

def moveCall (s : State) (c : CallId) (p : Call.Point) : State :=
  { s with calls := s.calls.modify c fun call => { call with point := p } }

def moveRenewal (s : State) (r : RenewalId) (p : Renewal.Point) : State :=
  { s with renewals := s.renewals.modify r fun renewal => { renewal with point := p } }

def openFlight (s : State) (mode : Mode) (context : Context) : State :=
  { s with flights := s.flights ++ [{ mode, context }] }

def writeFlight (s : State) (f : FlightId) (o : Outcome) : State :=
  { s with flights := s.flights.modify f (·.write o) }.record [.wrote f o]

def log (s : State) : List Entry :=
  s.history.filterMap fun
    | .reported entry => some entry
    | _ => none

end State

end BearerTokens.Cache
