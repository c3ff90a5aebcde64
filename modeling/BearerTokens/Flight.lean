import BearerTokens.Context
import BearerTokens.Fault
import BearerTokens.Report
import BearerTokens.Token

/-! # Flights

A flight is one acquisition that any number of callers share.  It is numbered in the order of
creation and its outcome is written once.
-/

namespace BearerTokens

abbrev FlightId := Nat

inductive Outcome where
  | ready (pass : Pass)
  | failed (fault : CredentialFault)
  /-- Whoever drove the flight gave up. -/
  | cancelled
deriving DecidableEq

namespace Outcome

def pass? : Outcome → Option Pass
  | ready pass => some pass
  | _ => none

def header : Outcome → Except Fault String
  | ready pass => .ok pass.header
  | failed fault => .error (.credential fault)
  | cancelled => .error .cancelled

end Outcome

structure Flight where
  mode : Mode
  context : Context
  outcome : Option Outcome := none
deriving DecidableEq

namespace Flight

def isPending (f : Flight) : Bool := f.outcome.isNone

def pass? (f : Flight) : Option Pass := f.outcome.bind Outcome.pass?

/-- Writes the outcome unless there is one. -/
def write (f : Flight) (o : Outcome) : Flight := { f with outcome := f.outcome.or (some o) }

theorem outcome_write_of_some {f : Flight} {o p : Outcome} (h : f.outcome = some p) :
    (f.write o).outcome = some p := by simp [write, h]

theorem outcome_write_of_none {f : Flight} {o : Outcome} (h : f.outcome = none) :
    (f.write o).outcome = some o := by simp [write, h]

end Flight

end BearerTokens
