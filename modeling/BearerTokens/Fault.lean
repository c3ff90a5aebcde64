/-! # What can go wrong

Causes are nested as they arise: local configuration, the token endpoint, the transport, the
credential as a whole, and the answer to a caller.  Each has one message; an outer cause that only
hands an inner one on has the message of the inner one.
-/

namespace BearerTokens

inductive ConfigFault where
  | noRuntime
  | blockingInside
  | clientBuild (cause : String)
  /-- A request could not be put together; the cause is the message. -/
  | badRequest (cause : String)
  | badHeader
  | badEndpoint
  | lifetimeMissing
  | lifetimeTooLong
  | lifetimeNotPositive
deriving DecidableEq

inductive TransportFault where
  | network (cause : String)
  | inputOutput (cause : String)
deriving DecidableEq

inductive CredentialFault where
  | unavailable (message : String)
  | rejected (reason : String)
  | config (fault : ConfigFault)
  /-- The token endpoint answered out of form. -/
  | unexpected (message : String)
  | malformed
  | transport (fault : TransportFault)
deriving DecidableEq

inductive Fault where
  | insecure (scheme : String)
  | credential (fault : CredentialFault)
  | cancelled
  | config (fault : ConfigFault)
  | transport (fault : TransportFault)
deriving DecidableEq

namespace ConfigFault

def message : ConfigFault → String
  | noRuntime => "No tokio runtime is available to drive token acquisition."
  | blockingInside =>
    "Blocking token acquisition cannot run inside an async task; use the async API."
  | clientBuild _ => "HTTP client could not be constructed."
  | badRequest cause => cause
  | badHeader => "Header value contains characters that cannot be sent."
  | badEndpoint => "Token endpoint URL is invalid."
  | lifetimeMissing => "Token endpoint response is missing expires_in."
  | lifetimeTooLong => "The expires_in value exceeds the supported range."
  | lifetimeNotPositive => "The expires_in value must be positive."

def hasCause : ConfigFault → Bool
  | clientBuild _ | badHeader | badEndpoint => true
  | _ => false

end ConfigFault

def TransportFault.message : TransportFault → String
  | network _ => "Network error occurred while sending the request."
  | inputOutput _ => "I/O error occurred while sending the request."

namespace CredentialFault

def message : CredentialFault → String
  | unavailable text => "Credential is unavailable: " ++ text ++ "."
  | rejected reason => "Token endpoint rejected the request: " ++ reason ++ "."
  | config fault => fault.message
  | unexpected text => "Token endpoint returned an unexpected response: " ++ text ++ "."
  | malformed => "Token endpoint returned malformed JSON."
  | transport fault => fault.message

def hasCause : CredentialFault → Bool
  | config fault => fault.hasCause
  | malformed | transport _ => true
  | _ => false

end CredentialFault

namespace Fault

def message : Fault → String
  | insecure scheme =>
    "Bearer token authentication is not permitted for non-TLS (`" ++ scheme ++ "`) endpoints."
  | credential fault => fault.message
  | cancelled => "Token acquisition was cancelled."
  | config fault => fault.message
  | transport fault => fault.message

def hasCause : Fault → Bool
  | credential fault => fault.hasCause
  | config fault => fault.hasCause
  | transport _ => true
  | _ => false

end Fault

end BearerTokens
