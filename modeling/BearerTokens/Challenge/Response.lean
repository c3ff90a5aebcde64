import BearerTokens.Challenge.Reader
import BearerTokens.Http.Message
import BearerTokens.Token

/-! # Challenges of a response

Only a response with status 401 challenges.  Header values that cannot be read as text are skipped.
-/

namespace BearerTokens.Http.Response

def challengeTexts (r : Response) : List String :=
  if r.status = unauthorized then r.headers.readable challengeHeader else []

def challenges (r : Response) : List Challenge := r.challengeTexts.flatMap Challenge.read

/-- Decoded claims of the first header that has any. -/
def claims? (r : Response) : Option String :=
  r.challengeTexts.findSome? fun text => Challenge.claimsOf text bearerScheme

def mayChallenge (r : Response) : Bool :=
  r.status == unauthorized && r.headers.has challengeHeader

end BearerTokens.Http.Response
