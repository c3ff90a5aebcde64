import BearerTokens.Context
import BearerTokens.Credential.Basic

/-! # A credential with one token

The credential answers every context with the same token until that expires.
-/

namespace BearerTokens

structure FixedCredential where
  token : Token
deriving DecidableEq

namespace FixedCredential

abbrev expiredText : String := "the static token has expired"

def answer (c : FixedCredential) (_ : Context) (now : Instant) : Answer :=
  if c.token.expiredAt now then .error (.unavailable expiredText) else .ok c.token

def text (c : FixedCredential) : String :=
  "StaticTokenCredential \x7b token: " ++ c.token.text ++ " \x7d"

end FixedCredential

end BearerTokens
