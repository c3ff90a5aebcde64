import BearerTokens.Credential.Basic

/-! # A credential that follows a script

Each call of the credential takes the next entry of the script: a wait, perhaps without end, and
then a fault or a token.  After the last entry every call is answered at once with a fresh token.
-/

namespace BearerTokens.Bench

structure ScriptEntry where
  /-- Milliseconds before the answer. -/
  delay : Nat := 0
  /-- No answer ever comes. -/
  stuck : Bool := false
  /-- The caller is asked to cancel just before the answer. -/
  cancelsCaller : Bool := false
  fault : Option CredentialFault := none
  token : Option String := none
  expiry : Option Instant := none
  lifetime : Option Duration := none
deriving Inhabited

def freshToken (n : Nat) : String := "token-" ++ toString n

/-- The answer of an entry to the `n`-th call when the clock reads `now`.  There is none when the
token's expiry would leave the calendar. -/
def ScriptEntry.answer? (e : ScriptEntry) (n : Nat) (now : Instant) (lifetime : Duration) :
    Option Answer :=
  match e.fault with
  | some fault => some (.error fault)
  | none =>
    (e.expiry.or (now.after? (e.lifetime.getD lifetime))).map fun expiry =>
      .ok (Token.ofText (e.token.getD (freshToken n)) expiry)

end BearerTokens.Bench
