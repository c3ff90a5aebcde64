import BearerTokens.Fault
import BearerTokens.Token

/-! # What a credential answers -/

namespace BearerTokens

abbrev Answer := Except CredentialFault Token

end BearerTokens
