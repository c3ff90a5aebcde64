import BearerTokens.Text.Blank

/-! # Request targets

A target is absolute (`scheme://authority/path?query`), a path with or without query, a lone
authority, or `*`.  What follows `#` is dropped.  The schemes `http` and `https` are written in
lower case; all else is kept as it was given.
-/

namespace BearerTokens.Http

inductive UriFault where
  | character
  | authority
  | format
  | schemeLength
  | length
  | empty
deriving DecidableEq

def UriFault.message : UriFault → String
  | character => "invalid uri character"
  | authority => "invalid authority"
  | format => "invalid format"
  | schemeLength => "scheme too long"
  | length => "uri too long"
  | empty => "empty string"

/-- A request target.  The path is empty in a lone authority. -/
structure Uri where
  scheme : Option String := none
  authority : Option String := none
  path : String := ""
  query : Option String := none
deriving DecidableEq, Inhabited

namespace Uri

def isAuthorityChar (c : Char) : Bool :=
  c.isAlphanum || "!#$&'()*+,-./:;=?@[]_~".toList.contains c

def isSchemeChar (c : Char) : Bool := c.isAlphanum || ['+', '-', '.', '~'].contains c

def isPathChar (c : Char) : Bool :=
  let n := c.toNat
  n == 0x21 || n == 0x22 || (0x24 ≤ n && n ≤ 0x3B) || n == 0x3D || (0x40 ≤ n && n ≤ 0x5F) ||
    (0x61 ≤ n && n ≤ 0x7E)

def isQueryChar (c : Char) : Bool :=
  let n := c.toNat
  n == 0x21 || (0x24 ≤ n && n ≤ 0x3B) || n == 0x3D || (0x3F ≤ n && n ≤ 0x7E)

structure Scan where
  colons : Nat := 0
  opened : Bool := false
  closed : Bool := false
  percent : Bool := false
  /-- The last character was the sign after user information. -/
  atSign : Bool := false

/-- One character of an authority.  Brackets and the sign after user information clear what was
seen before them. -/
def Scan.step (s : Scan) (c : Char) : Except UriFault Scan :=
  let s := { s with atSign := false }
  if c = ':' then
    if 8 ≤ s.colons then .error .authority else .ok { s with colons := s.colons + 1 }
  else if c = '[' then
    if s.percent ∨ s.opened then .error .authority else .ok { s with opened := true }
  else if c = ']' then
    if ¬ s.opened ∨ s.closed then .error .authority
    else .ok { s with closed := true, colons := 0, percent := false }
  else if c = '@' then .ok { s with colons := 0, percent := false, atSign := true }
  else if c = '%' then .ok { s with percent := true }
  else if isAuthorityChar c then .ok s
  else .error .character

def Scan.isGood (s : Scan) : Bool :=
  s.opened == s.closed && s.colons ≤ 1 && !s.atSign && !s.percent

def endsAuthority (c : Char) : Bool := c == '/' || c == '?' || c == '#'

def takeAuthority (cs : List Char) : Except UriFault (List Char) := do
  let authority := cs.takeWhile (!endsAuthority ·)
  let scan ← authority.foldlM Scan.step {}
  if cs.isEmpty then .error .empty
  else if scan.isGood then .ok authority
  else .error .authority

/-- The path and query of a text, without what follows `#`. -/
def takePath (cs : List Char) : Except UriFault (String × Option String) :=
  let visible := cs.takeWhile (· != '#')
  let path := visible.takeWhile (· != '?')
  if path.all isPathChar then
    match visible.drop path.length with
    | [] => .ok (String.ofList path, none)
    | _ :: query =>
      if query.all isQueryChar then .ok (String.ofList path, some (String.ofList query))
      else .error .character
  else .error .character

def takeScheme (cs : List Char) : Except UriFault (Option String × List Char) :=
  let scheme := cs.takeWhile isSchemeChar
  match cs.drop scheme.length with
  | ':' :: '/' :: '/' :: rest =>
    let name := String.ofList scheme
    if name.toLower = "http" ∨ name.toLower = "https" then .ok (some name.toLower, rest)
    else if cs.length ≤ 3 then .ok (none, cs)
    else if 64 < scheme.length then .error .schemeLength
    else .ok (some name, rest)
  | _ => .ok (none, cs)

/-- A target that does not start with `/` and is not `*`. -/
def readFull (cs : List Char) : Except UriFault Uri := do
  let (scheme, rest) ← takeScheme cs
  let authority ← takeAuthority rest
  let after := rest.drop authority.length
  match scheme with
  | none =>
    if after.isEmpty then .ok { authority := some (String.ofList authority) } else .error .format
  | some name =>
    if authority.isEmpty then .error .format
    else
      let (path, query) ← takePath after
      .ok { scheme := some name, authority := some (String.ofList authority),
            path := if path.isEmpty then "/" else path, query }

def read (s : String) : Except UriFault Uri :=
  if 65534 < s.utf8ByteSize then .error .length
  else
    match s.toList with
    | [] => .error .empty
    | ['*'] => .ok { path := "*" }
    | '/' :: rest => do
      let (path, query) ← takePath ('/' :: rest)
      .ok { path, query }
    | [c] => do
      let authority ← takeAuthority [c]
      if authority.isEmpty then .error .character
      else .ok { authority := some (String.ofList authority) }
    | cs => readFull cs

def text (u : Uri) : String :=
  let start := match u.scheme with
    | some scheme => scheme ++ "://"
    | none => ""
  let query := match u.query with
    | some q => "?" ++ q
    | none => ""
  start ++ u.authority.getD "" ++ u.path ++ query

def hostPort (authority : String) : List Char :=
  (authority.toList.reverse.takeWhile (· != '@')).reverse

def host? (u : Uri) : Option String := do
  let hp := hostPort (← u.authority)
  match hp with
  | '[' :: _ => some (String.ofList (hp.takeWhile (· != ']') ++ [']']))
  | _ => some (String.ofList (hp.takeWhile (· != ':')))

/-- A decimal number below `65536`, which a plus sign may precede. -/
def portNumber? (cs : List Char) : Option Nat :=
  let digits := match cs with
    | '+' :: rest => rest
    | cs => cs
  let n := digits.foldl (fun n c => n * 10 + (c.toNat - 48)) 0
  if !digits.isEmpty && digits.all Char.isDigit && n < 65536 then some n else none

def port? (u : Uri) : Option Nat := do
  let cs := (← u.authority).toList
  if cs.contains ':' then portNumber? (cs.reverse.takeWhile (· != ':')).reverse else none

end Uri

end BearerTokens.Http
