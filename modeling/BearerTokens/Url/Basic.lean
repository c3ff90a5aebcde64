import BearerTokens.Text.Form

/-! # Faults and spelling of addresses

What can be wrong with an address, and how characters are written as `%` and two digits for each of
their bytes.
-/

namespace BearerTokens

inductive UrlFault where
  | relative
  | emptyHost
  | port
  | domain
  | domainCharacter
  | fourNumbers
  | eightGroups
deriving DecidableEq

def UrlFault.message : UrlFault → String
  | relative => "relative URL without a base"
  | emptyHost => "empty host"
  | port => "invalid port number"
  | domain => "invalid international domain name"
  | domainCharacter => "invalid domain character"
  | fourNumbers => "invalid IPv4 address"
  | eightGroups => "invalid IPv6 address"

namespace Url

def splitAt (p : Char → Bool) : List Char → List (List Char)
  | [] => [[]]
  | c :: cs =>
    if p c then [] :: splitAt p cs
    else
      match splitAt p cs with
      | [] => [[c]]
      | part :: rest => (c :: part) :: rest

def percentEncoded (c : Char) : List Char :=
  (Text.utf8 (String.singleton c)).flatMap Text.Form.percent

/-- Encodes the characters of a class and all beyond ASCII. -/
def encodeWith (p : Char → Bool) (cs : List Char) : List Char :=
  cs.flatMap fun c => if p c || 127 ≤ c.toNat then percentEncoded c else [c]

def percentDecode : List Char → List UInt8
  | [] => []
  | '%' :: a :: b :: rest =>
    match Text.Form.digitValue? a, Text.Form.digitValue? b with
    | some x, some y => UInt8.ofNat (x * 16 + y) :: percentDecode rest
    | _, _ => 37 :: percentDecode (a :: b :: rest)
  | c :: rest => Text.utf8 (String.singleton c) ++ percentDecode rest

end Url

end BearerTokens
