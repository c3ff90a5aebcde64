import BearerTokens.Text.Utf8

/-! # Form bodies

A form body is a row of pairs `name=value` joined by `&`.  In names and values a space becomes `+`,
letters, digits and `*-._` stay, and any other byte becomes `%` and two digits to base sixteen.
-/

namespace BearerTokens.Text.Form

def isKept (b : UInt8) : Bool :=
  let c := Char.ofNat b.toNat
  c.isAlphanum || c == '*' || c == '-' || c == '.' || c == '_'

def digit (n : Nat) : Char := "0123456789ABCDEF".toList.getD n '0'

def percent (b : UInt8) : List Char := ['%', digit (b.toNat / 16), digit (b.toNat % 16)]

def encodeByte (b : UInt8) : List Char :=
  if b = 32 then ['+'] else if isKept b then [Char.ofNat b.toNat] else percent b

def encode (s : String) : List Char := (utf8 s).flatMap encodeByte

def encodePair (p : String × String) : List Char := encode p.1 ++ '=' :: encode p.2

def body (pairs : List (String × String)) : String :=
  String.ofList (List.intercalate ['&'] (pairs.map encodePair))

def digitValue? (c : Char) : Option Nat :=
  if '0' ≤ c ∧ c ≤ '9' then some (c.toNat - 48)
  else if 'A' ≤ c ∧ c ≤ 'F' then some (c.toNat - 55)
  else if 'a' ≤ c ∧ c ≤ 'f' then some (c.toNat - 87)
  else none

def decodeBytes : List Char → List UInt8
  | [] => []
  | '%' :: a :: b :: rest =>
    match digitValue? a, digitValue? b with
    | some x, some y => UInt8.ofNat (x * 16 + y) :: decodeBytes rest
    | _, _ => 37 :: decodeBytes (a :: b :: rest)
  | c :: rest => (if c = '+' then 32 else UInt8.ofNat c.toNat) :: decodeBytes rest

def decode (cs : List Char) : Option String := ofUtf8? (decodeBytes cs)

end BearerTokens.Text.Form
