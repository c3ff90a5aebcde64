import BearerTokens.Url.Basic

/-! # Paths of addresses

A path is a row of segments with a slash before each.  A segment of one dot stands for nothing, one
of two dots takes the segment before it back.  A segment that looks like the drive of a file's
address is never taken back.
-/

namespace BearerTokens.Url

def isControl (c : Char) : Bool := c.toNat < 32 || c == '\x7f'

def isFragmentUnsafe (c : Char) : Bool := isControl c || " \"<>`".toList.contains c

def isPathUnsafe (c : Char) : Bool := isFragmentUnsafe c || "#?\x7b\x7d".toList.contains c

def encoded (p : Char → Bool) (cs : List Char) : String := String.ofList (encodeWith p cs)

/-! ## Drives -/

def isDrive : List Char → Bool
  | [a, b] => a.isAlpha && (b == ':' || b == '|')
  | _ => false

def startsLikeDrive (segment : String) : Bool :=
  isDrive (segment.toList.takeWhile (· != '\\'))

def driveText (segment : String) : String := String.ofList (segment.toList.take 1 ++ [':'])

/-! ## Segments -/

def writtenDots : List Char → List Char
  | '%' :: '2' :: 'e' :: rest => '.' :: writtenDots rest
  | c :: rest => c :: writtenDots rest
  | [] => []

def plainDots (segment : String) : String :=
  String.ofList (writtenDots segment.toLower.toList)

/-- The segments before the last one, or all of them if that cannot be taken back. -/
def parent (done : List String) : List String :=
  match done.getLast? with
  | some last => if startsLikeDrive last then done else done.dropLast
  | none => done

/-- Resolves the segments of a path, the last of which no slash follows. -/
def resolve : List String → List String → List String
  | done, [] => done
  | done, [last] =>
    if plainDots last = ".." then parent done ++ [""]
    else if plainDots last = "." then done ++ [""]
    else done ++ [last]
  | done, segment :: rest =>
    if plainDots segment = ".." then resolve (parent done) rest
    else if plainDots segment = "." then resolve done rest
    else resolve (done ++ [segment]) rest

def afterSlash (isSlash : Char → Bool) : List Char → List Char
  | c :: rest => if isSlash c then rest else c :: rest
  | [] => []

/-- A path of segments; in special schemes a backslash is a slash. -/
def readPath (special : Bool) (cs : List Char) : String :=
  let isSlash (c : Char) : Bool := c == '/' || (special && c == '\\')
  let segments := splitAt isSlash (afterSlash isSlash cs)
  "/" ++ "/".intercalate (resolve [] (segments.map (encoded isPathUnsafe)))

/-- The path of a file, and whether its first segment is a drive.  Empty segments at its start are
left out. -/
def readFilePath (cs : List Char) : String × Bool :=
  let isSlash (c : Char) : Bool := c == '/' || c == '\\'
  let segments := splitAt isSlash (afterSlash isSlash cs)
  let resolved := resolve [] (segments.map (encoded isPathUnsafe))
  let onDrive := resolved.head?.any fun segment => isDrive segment.toList
  let written := if onDrive then resolved.modifyHead driveText else resolved
  (String.ofList ('/' :: ("/".intercalate written).toList.dropWhile (· == '/')), onDrive)

end BearerTokens.Url
