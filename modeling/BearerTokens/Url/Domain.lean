import BearerTokens.Text.Composed
import BearerTokens.Text.Direction
import BearerTokens.Text.Joining
import BearerTokens.Url.Folding
import BearerTokens.Url.Punycode

/-! # Domain names

A domain name is a row of labels between dots.  Names that are read alike are written alike: in
their images, composed, and in ASCII form.  A name is refused if a label has characters that no name
may hold, joiners that join nothing, or letters of both directions out of order.
-/

namespace BearerTokens.Url

open Text

/-! ## Characters -/

def isForbidden (c : Char) : Bool :=
  c.toNat ≤ 32 || c == '\x7f' || "#%/:<>?@[\\]^|".toList.contains c

/-- The character is read as itself. -/
def isSettled (c : Char) : Bool := image? c == some [c]

/-! ## Joiners -/

def isJoiner (c : Char) : Bool := c == '\u200c' || c == '\u200d'

/-- A joiner follows a virama.  The one that keeps letters apart may also stand between two letters
that would join. -/
def joinersFit : List Char → List Char → Bool
  | _, [] => true
  | before, c :: rest =>
    let isFit := match before with
      | [] => false
      | d :: _ => isVirama d ||
        (c == '\u200c' && firstJoins .next .both before && firstJoins .previous .both rest)
    (!isJoiner c || isFit) && joinersFit (c :: before) rest

/-! ## Directions -/

/-- A label that starts with a letter of one direction keeps to it.  Marks at its end do not
count. -/
def directionsFit (label : List Char) : Bool :=
  let ds := label.map direction
  let last := ((ds.reverse.dropWhile (· == .mark)).head?).getD .mark
  match ds with
  | [] => true
  | .rightward :: _ =>
    ds.all (fun d => d != .leftward && d != .arabicDigit) && (last == .rightward || last == .digit)
  | .leftward :: _ =>
    !ds.contains .rightward && !(ds.contains .digit && ds.contains .arabicDigit) &&
      (last == .leftward || last == .digit || last == .arabicDigit)
  | _ => false

/-! ## Labels -/

def asciiSign : List Char := ['x', 'n', '-', '-']

/-- The characters that a label stands for.  An ASCII form stands for other characters, each read as
itself and all composed. -/
def meaning? (label : List Char) : Option (List Char) :=
  if asciiSign.isPrefixOf label then do
    let code := label.drop asciiSign.length
    if label.getLast? = some '-' || 2000 < code.length then none
    else
      let decoded ← decodeLabel? code
      if decoded.all isSettled && composed decoded == decoded then some decoded else none
  else some label

def isLabel (label : List Char) : Bool :=
  !label.any isForbidden && !(label.head?.any isMark) && joinersFit [] label &&
    (label.all isAscii || label.length ≤ 1000)

def labelText (label : List Char) : List Char :=
  if label.all isAscii then label else asciiSign ++ encodeLabel label

def domain? (name : List Char) : Option (List Char) := do
  let images ← name.mapM image?
  let labels := splitAt (· == '.') (composed images.flatten)
  let meanings ← labels.mapM meaning?
  let turns := meanings.any (·.any turnsLeft)
  if meanings.all isLabel && (!turns || meanings.all directionsFit) then
    some (List.intercalate ['.'] (labels.map labelText))
  else none

end BearerTokens.Url
