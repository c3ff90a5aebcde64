import BearerTokens.Time.Instant

/-! # Tokens and passes

A credential issues a token: a secret with an expiry.  The cache turns it into a pass: the header
value that carries the secret, the instant at which it lapses and the instant from which a
successor should be sought.
-/

namespace BearerTokens

/-- Stands wherever a secret would be shown. -/
abbrev redacted : String := "<redacted>"

abbrev bearerScheme : String := "Bearer"

/-- A text that no report shows. -/
structure Secret where
  value : String
deriving DecidableEq, Inhabited

def Secret.text (_ : Secret) : String := redacted

def Secret.header (s : Secret) : String := bearerScheme ++ " " ++ s.value

/-- A token with the instant from which its issuer no longer accepts it. -/
structure Token where
  secret : Secret
  expiry : Timestamp
deriving DecidableEq, Inhabited

namespace Token

def ofText (value : String) (expiry : Instant) : Token := ⟨⟨value⟩, { instant := expiry }⟩

def expiredAt (t : Token) (now : Instant) : Bool := t.expiry.instant ≤ now

def text (t : Token) : String :=
  "AccessToken \x7b token: " ++ t.secret.text ++ ", expires_on: " ++ t.expiry.text ++ " \x7d"

end Token

/-- A header value that is ready to use, with its schedule. -/
structure Pass where
  header : String
  expiry : Instant
  renewal : Instant
deriving DecidableEq, Inhabited

namespace Pass

/-- The pass for a token whose successor is sought a span before it expires; nothing when that
instant leaves the calendar. -/
def ofToken? (t : Token) (lead : Duration) : Option Pass :=
  (t.expiry.instant.before? lead).map (⟨t.secret.header, t.expiry.instant, ·⟩)

def deferred? (p : Pass) (now : Instant) (delay : Duration) : Option Pass :=
  (now.after? delay).map ({ p with renewal := · })

def expiredAt (p : Pass) (now : Instant) : Bool := p.expiry ≤ now

def dueAt (p : Pass) (now : Instant) : Bool := p.renewal ≤ now

def text (p : Pass) : String :=
  "CachedToken \x7b header_value: \"" ++ redacted ++ "\", expires_on: " ++
    ({ instant := p.expiry } : Timestamp).text ++ ", refresh_on: " ++
    ({ instant := p.renewal } : Timestamp).text ++ " \x7d"

end Pass

end BearerTokens
