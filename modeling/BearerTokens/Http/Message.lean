import BearerTokens.Fault
import BearerTokens.Http.Header
import BearerTokens.Http.Uri

/-! # Requests and responses

A body is a text.  Bodies whose bytes are no UTF-8 are not among those that are described here.
-/

namespace BearerTokens.Http

/-- Protocol version of a request. -/
inductive Version where
  | http09
  | http10
  | http11
  | http2
  | http3
deriving DecidableEq, Inhabited

def Version.text : Version → String
  | http09 => "HTTP/0.9"
  | http10 => "HTTP/1.0"
  | http11 => "HTTP/1.1"
  | http2 => "HTTP/2.0"
  | http3 => "HTTP/3.0"

structure Request where
  method : String := "GET"
  uri : Uri
  version : Version := .http11
  headers : Headers := []
  body : String := ""
deriving DecidableEq, Inhabited

structure Response where
  status : Nat := 200
  headers : Headers := []
  body : String := ""
deriving DecidableEq, Inhabited

abbrev Delivery := Except TransportFault Response

def isStatus (n : Int) : Bool := 100 ≤ n && n ≤ 999

abbrev unauthorized : Nat := 401

abbrev challengeHeader : String := "www-authenticate"

abbrev authorizationHeader : String := "authorization"

end BearerTokens.Http
