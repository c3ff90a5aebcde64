import BearerTokens.Http.Header
import BearerTokens.Text.Base64
import BearerTokens.Text.Utf8

/-! # Authentication challenges

A challenge names a scheme and carries either nothing, an opaque payload, or parameters.  Schemes
and parameter names are compared without regard to the case of letters, and the first parameter of
a name is the one that counts.
-/

namespace BearerTokens

structure Challenge where
  scheme : String
  params : List (String × String) := []
  /-- The opaque payload. -/
  payload : Option String := none
deriving DecidableEq, Inhabited

namespace Challenge

abbrev claimsParam : String := "claims"
abbrev scopeParam : String := "scope"
abbrev resourceParam : String := "resource"

def hasScheme (c : Challenge) (scheme : String) : Bool := Text.sameLetters c.scheme scheme

def param? (c : Challenge) (name : String) : Option String :=
  (c.params.find? fun p => Text.sameLetters p.1 name).map (·.2)

/-- The claims that a parameter value stands for: base64 for URLs of a text that is not empty, with
blanks around it and with any part of its closing signs. -/
def decodeClaims (value : String) : Option String := do
  let code := Text.trimBoth Text.isBlank value.toList
  let bytes ← Text.Base64.decodeLenient Text.Base64.urlSafe code
  let claims ← Text.ofUtf8? bytes
  if claims.isEmpty then none else some claims

def scope? (c : Challenge) : Option String := c.param? scopeParam

def resource? (c : Challenge) : Option String := c.param? resourceParam

def claims? (c : Challenge) : Option String := (c.param? claimsParam).bind decodeClaims

end Challenge

end BearerTokens
