import BearerTokens.Url.Domain
import BearerTokens.Url.Numeric

/-! # Hosts of addresses

A host is a domain name, an address of four numbers, or an address of eight groups in brackets.
Where names have no meaning, it is kept as it is apart from its encoding.
-/

namespace BearerTokens.Url

def bracketed (cs : List Char) : Except UrlFault String :=
  match cs.getLast?, eightGroups? (cs.drop 1).dropLast with
  | some ']', some groups => .ok (eightText groups)
  | _, _ => .error .eightGroups

/-- The written form of a host where names are domain names. -/
def readHost (cs : List Char) : Except UrlFault String :=
  if cs.head? = some '[' then bracketed cs
  else
    match (Text.ofUtf8? (percentDecode cs)).bind fun decoded => domain? decoded.toList with
    | none => .error .domain
    | some name =>
      if name.isEmpty then .error .emptyHost
      else if endsInNumber name then
        match fourNumbers? name with
        | some numbers => .ok (".".intercalate (numbers.map toString))
        | none => .error .fourNumbers
      else .ok (String.ofList name)

/-- The written form of a host where names have no meaning. -/
def readOpaqueHost (cs : List Char) : Except UrlFault String :=
  if cs.head? = some '[' then bracketed cs
  else if cs.any fun c => c == '\x00' || " #/:<>?@[\\]^|".toList.contains c then
    .error .domainCharacter
  else .ok (String.ofList (encodeWith (·.toNat < 32) cs))

end BearerTokens.Url
