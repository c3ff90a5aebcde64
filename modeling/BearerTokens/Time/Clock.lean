import BearerTokens.Time.Instant

/-! # Clocks that move when told to -/

namespace BearerTokens

/-- A clock whose reading changes only on request. -/
structure Clock where
  now : Instant
deriving DecidableEq, Inhabited

namespace Clock

def advance? (c : Clock) (d : Duration) : Option Clock := (c.now.after? d).map Clock.mk

def set (_ : Clock) (now : Instant) : Clock := ⟨now⟩

end Clock

end BearerTokens
