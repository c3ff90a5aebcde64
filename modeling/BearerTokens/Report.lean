import BearerTokens.Context.Fingerprint

/-! # What a cache reports

Every acquisition opens a span and counts how it began and ended; a background renewal that keeps
the previous pass also warns and counts why.  A log names contexts by their
fingerprints.
-/

namespace BearerTokens

inductive Mode where
  | synchronous
  | background
deriving DecidableEq

namespace Mode

def all : List Mode := [synchronous, background]

def label : Mode → String
  | synchronous => "synchronous"
  | background => "background"

def stage : Mode → String
  | synchronous => "get"
  | background => "background_refresh"

end Mode

inductive Milestone where
  | attempt
  | success
  | failure
  | cancelled
deriving DecidableEq

namespace Milestone

def all : List Milestone := [attempt, success, failure, cancelled]

def label : Milestone → String
  | attempt => "attempt"
  | success => "success"
  | failure => "failure"
  | cancelled => "cancelled"

end Milestone

inductive Reason where
  | failure
  | timeout
  | noRuntime
deriving DecidableEq

namespace Reason

def all : List Reason := [failure, timeout, noRuntime]

def label : Reason → String
  | failure => "failure"
  | timeout => "timeout"
  | noRuntime => "no_runtime"

end Reason

inductive Entry where
  | span (mode : Mode) (context : Context)
  | counted (mode : Mode) (milestone : Milestone)
  | fellBack (reason : Reason)
  | warned (context : Context) (reason : Reason) (error : String)
  /-- A challenge is answered with a token for the context. -/
  | answering (context : Context)
deriving DecidableEq

namespace Entry

abbrev spanName : String := "bearer_cache.acquisition"

abbrev acquisitionCounter : String := "bearer_cache_acquisition_total"

abbrev fallbackCounter : String := "bearer_cache_background_fallback_total"

abbrev fallbackWarning : String :=
  "Background token refresh failed; continuing with the previous token."

abbrev challengeNotice : String := "Answering authentication challenge with a fresh token."

end Entry

/-- An entry as a log shows it: a name, or a level for events, and labelled texts. -/
inductive Entry.Shown where
  | span (name : String) (fields : List (String × String))
  | counter (name : String) (labels : List (String × String))
  | event (level : String) (fields : List (String × String))

def Context.logFields (c : Context) : List (String × String) :=
  ("context", c.fingerprint) ::
    match c.correlation with
    | some id => [("correlation_id", id)]
    | none => []

def Entry.shown : Entry → Entry.Shown
  | .span mode c =>
    .span spanName ([("mode", mode.label), ("stage", mode.stage)] ++ c.logFields)
  | .counted mode milestone =>
    .counter acquisitionCounter [("mode", mode.label), ("outcome", milestone.label)]
  | .fellBack reason => .counter fallbackCounter [("reason", reason.label)]
  | .warned c reason error =>
    .event "WARN" (("message", fallbackWarning) :: c.logFields ++
      [("reason", reason.label), ("error", error)])
  | .answering c => .event "DEBUG" (("message", challengeNotice) :: c.logFields)

structure Metrics where
  hits : Nat := 0
  waits : Nat := 0
  acquisitions : Nat := 0
  failures : Nat := 0
  started : Nat := 0
  succeeded : Nat := 0
  fallbacks : Nat := 0
  abandoned : Nat := 0
deriving DecidableEq, Inhabited

/-- Background renewals that have not been counted as finished. -/
def Metrics.inFlight (m : Metrics) : Nat :=
  m.started - (m.succeeded + m.fallbacks + m.abandoned)

end BearerTokens
