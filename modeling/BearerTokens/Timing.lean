import BearerTokens.Json.Decode
import BearerTokens.Time.Duration

/-! # When a cache renews

Two spans: how long before expiry a successor is sought, and how long a background renewal may take,
which is also the wait after a failed one.  Setting a span replaces a negative one by zero; reading
stored settings does not.
-/

namespace BearerTokens

structure Timing where
  /-- How long before expiry a successor is sought. -/
  lead : Duration := .ofSeconds 300
  /-- The limit of a background renewal and the wait after a failed one. -/
  retry : Duration := .ofSeconds 30
deriving DecidableEq, Inhabited

namespace Timing

def withLead (t : Timing) (d : Duration) : Timing := { t with lead := d.clamp }

def withRetry (t : Timing) (d : Duration) : Timing := { t with retry := d.clamp }

def durationJson (d : Duration) : Json := .array [.int d.seconds, .int d.subsecond]

def duration? (v : Json) : Option Duration := do
  match ← (← v.items?).mapM Json.int? with
  | [s, ns] =>
    if Int64.minValue.toInt ≤ s ∧ s ≤ Int64.maxValue.toInt ∧ -999999999 ≤ ns ∧ ns ≤ 999999999 then
      Duration.ofParts? s ns
    else none
  | _ => none

def fieldNames : List String := ["refresh_offset", "background_retry_timeout"]

def toJson (t : Timing) : Json :=
  .ofFields [("refresh_offset", durationJson t.lead),
    ("background_retry_timeout", durationJson t.retry)]

def ofJson? (v : Json) : Option Timing := do
  match ← v.fields? fieldNames with
  | [some lead, some retry] => do some { lead := ← duration? lead, retry := ← duration? retry }
  | _ => none

def write (t : Timing) : String := t.toJson.write

def read? (s : String) : Option Timing := (Json.read? s).bind ofJson?

end Timing

end BearerTokens
