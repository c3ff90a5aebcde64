import BearerTokens.Context
import BearerTokens.Digest.Sha256
import BearerTokens.Text.Base64
import BearerTokens.Text.Utf8

/-! # Fingerprints of contexts

A fingerprint names a context in reports without showing its claims.  It is the digest of a byte
string in which every scope is followed by a zero byte and a tag tells whether claims follow.
-/

namespace BearerTokens.Context

/-- Every scope followed by a zero byte. -/
def scopeBytes (scopes : List String) : List UInt8 := scopes.flatMap fun s => Text.utf8 s ++ [0]

/-- A tag, and the claims if there are any. -/
def claimBytes : Option String → List UInt8
  | some claims => 1 :: Text.utf8 claims
  | none => [2]

def fingerprintInput (c : Context) : List UInt8 := scopeBytes c.scopes ++ claimBytes c.claims

def fingerprint (c : Context) : String :=
  String.ofList (Text.Base64.encode Text.Base64.standard (Sha256.digest c.fingerprintInput))

theorem Equivalent.fingerprint_eq {a b : Context} (h : a.Equivalent b) :
    a.fingerprint = b.fingerprint := by
  simp only [fingerprint, fingerprintInput, h.1, h.2]

end BearerTokens.Context
