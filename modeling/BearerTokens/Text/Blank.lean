/-! # Blank characters

Two classes: the characters that are white space in Unicode, which are trimmed from both ends of a
payload, and the five of them that a header grammar skips.
-/

namespace BearerTokens.Text

/-- White space in the sense of Unicode. -/
def isBlank (c : Char) : Bool :=
  let n := c.toNat
  (9 ≤ n && n ≤ 13) || n == 32 || n == 0x85 || n == 0xA0 || n == 0x1680 ||
    (0x2000 ≤ n && n ≤ 0x200A) || n == 0x2028 || n == 0x2029 || n == 0x202F || n == 0x205F ||
    n == 0x3000

def isAsciiBlank (c : Char) : Bool :=
  c == ' ' || c == '\t' || c == '\n' || c == '\x0c' || c == '\r'

def trimBoth (p : Char → Bool) (cs : List Char) : List Char :=
  ((cs.dropWhile p).reverse.dropWhile p).reverse

/-- Equality of texts up to the case of the letters `A` to `Z`. -/
def sameLetters (a b : String) : Bool := a.toLower == b.toLower

end BearerTokens.Text
