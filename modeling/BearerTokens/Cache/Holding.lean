import BearerTokens.Flight

/-! # What a cache holds, and what a call is to do

A cache holds the context of its last acquisition, the flight whose pass is served, and on standby
the flight of a background renewal.  A call looks at the three under a lock and is told one of four
things: to acquire, to wait, to serve, or to serve and start a renewal.
-/

namespace BearerTokens.Cache

/-- The shared state that calls decide on. -/
structure Holding where
  context : Option Context := none
  /-- The flight whose pass is served, or that callers wait on. -/
  current : Option FlightId := none
  /-- The flight of a background renewal. -/
  standby : Option FlightId := none
deriving DecidableEq, Inhabited

inductive Decision where
  /-- Open a new current flight. -/
  | acquire (flight : FlightId)
  /-- Wait on a flight that has no outcome. -/
  | wait (flight : FlightId)
  /-- Open a flight for a renewal and serve the pass of the source. -/
  | renew (flight source : FlightId) (pass : Pass)
  /-- Serve the pass of a flight. -/
  | serve (source : FlightId) (pass : Pass)
deriving DecidableEq

namespace Holding

variable (outcome? : FlightId → Option Outcome)

/-- A new current flight; a renewal on standby is forgotten. -/
def restart (h : Holding) (flight : FlightId) : Holding :=
  { h with current := some flight, standby := none }

/-- A finished renewal whose pass is still good takes the place of the current flight.  One that was
given up is forgotten, so that another may start. -/
def promote (now : Instant) (h : Holding) : Holding :=
  match h.standby.bind outcome? with
  | some (.ready pass) =>
    if pass.expiredAt now then h else { h with current := h.standby, standby := none }
  | some .cancelled => { h with standby := none }
  | _ => h

def usable (now : Instant) (h : Holding) : Option (FlightId × Pass) :=
  match h.current with
  | none => none
  | some flight =>
    match outcome? flight with
    | some (.ready pass) => if pass.expiredAt now then none else some (flight, pass)
    | _ => none

/-- The decision for a current flight that has an outcome.  `next` numbers the flight to open. -/
def decideSettled (next : FlightId) (now : Instant) (h : Holding) : Holding × Decision :=
  let promoted := h.promote outcome? now
  match promoted.usable outcome? now with
  | none => (promoted.restart next, .acquire next)
  | some (source, pass) =>
    if pass.dueAt now && promoted.standby.isNone then
      ({ promoted with standby := some next }, .renew next source pass)
    else (promoted, .serve source pass)

/-- The decision for a call with a context at a clock reading.  A flight for another context is of
no use, whatever its state. -/
def decide (next : FlightId) (context : Context) (now : Instant) (h : Holding) :
    Holding × Decision :=
  match h.context, h.current with
  | some stored, some flight =>
    if stored.Equivalent context then
      match outcome? flight with
      | none => (h, .wait flight)
      | some _ => h.decideSettled outcome? next now
    else ({ h.restart next with context := some context }, .acquire next)
  | _, _ => ({ h.restart next with context := some context }, .acquire next)

end Holding

end BearerTokens.Cache
