import BearerTokens.Cache.State
import BearerTokens.Text.Quoted

/-! # How a cache looks in a report

The text shows the context and the outcomes of the flights that the cache holds.  Of a pass it shows
the schedule alone.
-/

namespace BearerTokens

def ConfigFault.text : ConfigFault → String
  | .clientBuild cause => "HttpClientBuild(" ++ Text.quote cause ++ ")"
  | fault => Text.quote fault.message

def TransportFault.text : TransportFault → String
  | .network cause => "Network(" ++ Text.quote cause ++ ")"
  | .inputOutput cause => "Io(" ++ Text.quote cause ++ ")"

def CredentialFault.text : CredentialFault → String
  | .config fault => fault.text
  | .transport fault => fault.text
  | fault => Text.quote fault.message

def Outcome.text : Outcome → String
  | .ready pass => "Ready(" ++ pass.text ++ ")"
  | .failed fault => "Failed(" ++ fault.text ++ ")"
  | .cancelled => "Cancelled"

def Context.text (c : Context) : String :=
  "Context(" ++ ", ".intercalate (c.scopes.map Text.quote) ++ "; " ++
    (c.claims.map Text.quote).getD "None" ++ "; " ++
    (c.correlation.map Text.quote).getD "None" ++ ")"

namespace Cache.State

def flightText (s : State) (f : FlightId) : String :=
  ((s.outcome? f).map Outcome.text).getD "Pending"

def text (s : State) : String :=
  "context: " ++ (s.holding.context.map Context.text).getD "None" ++
    ", current: " ++ (s.holding.current.map s.flightText).getD "None" ++
    ", background: " ++ (s.holding.standby.map s.flightText).getD "None"

end Cache.State

def occurrences (word : List Char) : List Char → Nat
  | [] => 0
  | c :: cs =>
    if word ≠ [] ∧ word.isPrefixOf (c :: cs) then
      occurrences word (cs.drop (word.length - 1)) + 1
    else occurrences word cs
termination_by cs => cs.length
decreasing_by all_goals (simp only [List.length_cons, List.length_drop]; omega)

/-- What a report of a text gives away: whether a header value stands in it, and how many secrets
are blotted out. -/
structure Disclosure where
  leaks : Bool
  redactions : Nat

def Disclosure.of (text : String) : Disclosure :=
  { leaks := occurrences (bearerScheme ++ " ").toList text.toList ≠ 0
    redactions := occurrences redacted.toList text.toList }

end BearerTokens
