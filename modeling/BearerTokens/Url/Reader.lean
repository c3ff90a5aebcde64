import BearerTokens.Url.Host
import BearerTokens.Url.Path

/-! # Addresses

An address has a scheme and either an authority with a path, a path alone, or an opaque rest; then
perhaps a query and a fragment.  Reading it settles its spelling: the scheme and host in lower case,
no default port, dots in the path resolved, and unsafe characters encoded.
-/

namespace BearerTokens

structure Url where
  scheme : String
  /-- User information, host and port. -/
  authority : Option String := none
  path : String
  query : Option String := none
  fragment : Option String := none
deriving DecidableEq, Inhabited

namespace Url

def text (u : Url) : String :=
  let guard := if u.authority.isNone && "//".toList.isPrefixOf u.path.toList then "/." else ""
  u.scheme ++ ":" ++ (u.authority.map ("//" ++ ·)).getD "" ++ guard ++ u.path ++
    (u.query.map ("?" ++ ·)).getD "" ++ (u.fragment.map ("#" ++ ·)).getD ""

/-- Default ports of the schemes that always have an authority. -/
def defaultPorts : List (String × Nat) :=
  [("http", 80), ("https", 443), ("ws", 80), ("wss", 443), ("ftp", 21)]

def isUserUnsafe (c : Char) : Bool := isPathUnsafe c || "/:;=@[\\]^|".toList.contains c

def isQueryUnsafe (special : Bool) (c : Char) : Bool :=
  isControl c || " \"#<>".toList.contains c || (special && c == '\x27')

def endsPath (c : Char) : Bool := c == '?' || c == '#'

def tails (special : Bool) (cs : List Char) : Option String × Option String :=
  let query := cs.takeWhile (· != '#')
  let fragment := cs.drop query.length
  ((match query with
    | '?' :: q => some (encoded (isQueryUnsafe special) q)
    | _ => none),
   (match fragment with
    | '#' :: f => some (encoded isFragmentUnsafe f)
    | _ => none))

def readUser (cs : List Char) : String :=
  let name := cs.takeWhile (· != ':')
  let secret := cs.drop (name.length + 1)
  let user := encoded isUserUnsafe name ++
    (if secret.isEmpty then "" else ":" ++ encoded isUserUnsafe secret)
  if user.isEmpty then "" else user ++ "@"

/-- The host at the start of a text: it ends at a colon outside brackets. -/
def takeHost : Bool → List Char → List Char
  | _, [] => []
  | inside, c :: rest =>
    if c = ':' ∧ ¬ inside then []
    else c :: takeHost (c = '[' || (inside && c != ']')) rest

def readPort (default : Option Nat) (cs : List Char) : Except UrlFault String :=
  let n := cs.foldl (fun n c => n * 10 + (c.toNat - 48)) 0
  if !cs.all Char.isDigit || 65535 < n then .error .port
  else if cs.isEmpty || default = some n then .ok ""
  else .ok (":" ++ toString n)

/-- Reads an authority and gives what stands after it.  It ends at a slash or where the path does; a
port ends at a backslash too. -/
def readAuthority (special : Bool) (default : Option Nat) (cs : List Char) :
    Except UrlFault (String × List Char) := do
  let authority := cs.takeWhile fun c => c != '/' && !(special && c == '\\') && !endsPath c
  let rest := cs.drop authority.length
  let hasUser := authority.contains '@'
  let hostPort := (authority.reverse.takeWhile (· != '@')).reverse
  let name := if hasUser then authority.take (authority.length - hostPort.length - 1) else []
  if hasUser && name.isEmpty && hostPort.isEmpty && !rest.isEmpty then .error .emptyHost
  else
    let user := readUser name
    let host := takeHost false hostPort
    let after := hostPort.drop host.length
    if host.isEmpty && (special || !after.isEmpty || !user.isEmpty) then .error .emptyHost
    else
      let written ← if special then readHost host else readOpaqueHost host
      let port := (after.drop 1).takeWhile (· != '\\')
      .ok (user ++ written ++ (← readPort default port), after.drop (port.length + 1) ++ rest)

/-- The host of a file's address and the path after it.  Without a host all that follows is behind
one more slash, and a drive in the place of the host starts the path. -/
def readFileHost (cs : List Char) : Except UrlFault (String × List Char) := do
  let host := cs.takeWhile fun c => c != '/' && c != '\\' && !endsPath c
  if host.isEmpty || isDrive host then .ok ("", '/' :: cs)
  else
    let written ← readHost host
    let rest := cs.drop host.length
    .ok (if written = "localhost" then ("", '/' :: rest) else (written, rest))

def readFile (cs : List Char) : Except UrlFault (String × String × List Char) := do
  let isSlash (c : Char) : Bool := c == '/' || c == '\\'
  let (host, rest) ← match cs with
    | a :: b :: rest => if isSlash a && isSlash b then readFileHost rest else .ok ("", cs)
    | _ => .ok ("", cs)
  let written := rest.takeWhile (!endsPath ·)
  let (path, onDrive) := readFilePath written
  .ok (if onDrive then "" else host, path, rest.drop written.length)

def readRest (scheme : String) (cs : List Char) : Except UrlFault Url := do
  let finish (special : Bool) (authority : Option String) (path : String) (rest : List Char) :
      Url :=
    let (query, fragment) := tails special rest
    { scheme, authority, path, query, fragment }
  let isSlash (c : Char) : Bool := c == '/' || c == '\\'
  match defaultPorts.lookup scheme with
  | some port =>
    let (authority, rest) ← readAuthority true (some port) (cs.dropWhile isSlash)
    let path := rest.takeWhile (!endsPath ·)
    .ok (finish true (some authority) (readPath true path) (rest.drop path.length))
  | none =>
    if scheme = "file" then
      let (host, path, rest) ← readFile cs
      .ok (finish true (some host) path rest)
    else
      match cs with
      | '/' :: '/' :: body =>
        let (authority, rest) ← readAuthority false none body
        let path := rest.takeWhile (!endsPath ·)
        .ok (finish false (some authority) (if path.isEmpty then "" else readPath false path)
          (rest.drop path.length))
      | _ =>
        let path := cs.takeWhile (!endsPath ·)
        let written := if cs.head? = some '/' then readPath false path else encoded isControl path
        .ok (finish false none written (cs.drop path.length))

/-- Reads an address.  Controls and spaces around it and line breaks and tabs within it do not
count. -/
def read (s : String) : Except UrlFault Url :=
  let isEdge (c : Char) : Bool := c.toNat ≤ 32
  let trimmed := ((s.toList.dropWhile isEdge).reverse.dropWhile isEdge).reverse
  let cs := trimmed.filter fun c => c != '\t' && c != '\n' && c != '\r'
  let scheme := cs.takeWhile fun c => c.isAlphanum || c == '+' || c == '-' || c == '.'
  match scheme, cs.drop scheme.length with
  | c :: _, ':' :: rest =>
    if c.isAlpha then readRest (String.ofList scheme).toLower rest else .error .relative
  | _, _ => .error .relative

end Url

end BearerTokens
