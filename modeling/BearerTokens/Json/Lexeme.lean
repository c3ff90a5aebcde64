import BearerTokens.Json.Basic

/-! # The lexemes of JSON

A text is cut into brackets, separators, words, numbers and strings.  Each reader of a lexeme tells
how many characters it takes, so the rest of the text is plain `List.drop`.  A character that
starts no lexeme becomes the lexeme `bad`, at which every reader of values stops.
-/

namespace BearerTokens.Json

inductive Lexeme where
  | openArray
  | closeArray
  | openObject
  | closeObject
  | comma
  | colon
  | scalar (v : Json)
  | bad
deriving Inhabited

def isSpace (c : Char) : Bool := c == ' ' || c == '\n' || c == '\t' || c == '\r'

def hexValue? (c : Char) : Option Nat :=
  if '0' ≤ c ∧ c ≤ '9' then some (c.toNat - 48)
  else if 'a' ≤ c ∧ c ≤ 'f' then some (c.toNat - 87)
  else if 'A' ≤ c ∧ c ≤ 'F' then some (c.toNat - 55)
  else none

def hexQuad? (a b c d : Char) : Option Nat := do
  let w ← hexValue? a
  let x ← hexValue? b
  let y ← hexValue? c
  let z ← hexValue? d
  some (((w * 16 + x) * 16 + y) * 16 + z)

def shortEscape? (c : Char) : Option Char :=
  match c with
  | '"' => some '"'
  | '\\' => some '\\'
  | '/' => some '/'
  | 'b' => some '\x08'
  | 'f' => some '\x0c'
  | 'n' => some '\n'
  | 'r' => some '\r'
  | 't' => some '\t'
  | _ => none

/-- The code points of a string after its opening quote, halves of surrogate pairs among them, and
the number of characters read, the closing quote included. -/
def stringBody : List Char → Option (List Nat × Nat)
  | [] => none
  | '"' :: _ => some ([], 1)
  | '\\' :: 'u' :: a :: b :: c :: d :: rest => do
    let unit ← hexQuad? a b c d
    let (units, n) ← stringBody rest
    some (unit :: units, n + 6)
  | '\\' :: e :: rest => do
    let c ← shortEscape? e
    let (units, n) ← stringBody rest
    some (c.toNat :: units, n + 2)
  | c :: rest =>
    if c.toNat < 32 ∨ c = '\\' then none
    else do
      let (units, n) ← stringBody rest
      some (c.toNat :: units, n + 1)

def isHighHalf (n : Nat) : Bool := 0xD800 ≤ n && n < 0xDC00

def isLowHalf (n : Nat) : Bool := 0xDC00 ≤ n && n < 0xE000

/-- Joins each high half with the low half after it.  A half that stands alone leaves no text. -/
def joinHalves : List Nat → Option (List Char)
  | [] => some []
  | [u] => if isHighHalf u || isLowHalf u then none else some [Char.ofNat u]
  | u :: v :: rest =>
    if isHighHalf u then
      if isLowHalf v then
        (joinHalves rest).map (Char.ofNat (0x10000 + (u - 0xD800) * 0x400 + (v - 0xDC00)) :: ·)
      else none
    else if isLowHalf u then none
    else (joinHalves (v :: rest)).map (Char.ofNat u :: ·)

def stringLexeme (cs : List Char) : Lexeme × Nat :=
  match stringBody cs with
  | some (units, n) => (.scalar (.string ((joinHalves units).map String.ofList)), n)
  | none => (.bad, 0)

def decimal (digits : List Char) : Nat :=
  digits.foldl (fun n c => n * 10 + (c.toNat - 48)) 0

/-- The exponent part at the start of a text: its value and length.  No exponent has length zero; a
mark without digits is malformed. -/
def exponentPart (cs : List Char) : Option (Int × Nat) :=
  match cs with
  | c :: rest =>
    if c = 'e' ∨ c = 'E' then
      let (negative, skipped) : Bool × Nat :=
        match rest with
        | '-' :: _ => (true, 1)
        | '+' :: _ => (false, 1)
        | _ => (false, 0)
      let digits := (rest.drop skipped).takeWhile Char.isDigit
      if digits.isEmpty then none
      else
        let size : Int := decimal digits
        some (if negative then -size else size, 1 + skipped + digits.length)
    else some (0, 0)
  | [] => some (0, 0)

def fractionPart (cs : List Char) : Option (List Char × Nat) :=
  match cs with
  | '.' :: rest =>
    let digits := rest.takeWhile Char.isDigit
    if digits.isEmpty then none else some (digits, 1 + digits.length)
  | _ => some ([], 0)

/-- A number without its sign, and its length.  A leading zero stands alone. -/
def numberBody (negative : Bool) (cs : List Char) : Option (Numeral × Nat) := do
  let whole := cs.takeWhile Char.isDigit
  if whole.isEmpty ∨ (whole.head? = some '0' ∧ 1 < whole.length) then none
  else
    let afterWhole := cs.drop whole.length
    let (fraction, n) ← fractionPart afterWhole
    let (exponent, m) ← exponentPart (afterWhole.drop n)
    let numeral : Numeral :=
      { negative, digits := decimal (whole ++ fraction), places := fraction.length, exponent,
        plain := n == 0 && m == 0 }
    some (numeral, whole.length + n + m)

/-- A number with first character `c`; the length counts the characters after `c`. -/
def numberLexeme (c : Char) (cs : List Char) : Lexeme × Nat :=
  if c = '-' then
    match numberBody true cs with
    | some (n, len) => (.scalar (.number n), len)
    | none => (.bad, 0)
  else
    match numberBody false (c :: cs) with
    | some (n, len) => (.scalar (.number n), len - 1)
    | none => (.bad, 0)

def lexeme (c : Char) (cs : List Char) : Lexeme × Nat :=
  match c with
  | '[' => (.openArray, 0)
  | ']' => (.closeArray, 0)
  | '\x7b' => (.openObject, 0)
  | '\x7d' => (.closeObject, 0)
  | ',' => (.comma, 0)
  | ':' => (.colon, 0)
  | '"' => stringLexeme cs
  | 't' => if ['r', 'u', 'e'].isPrefixOf cs then (.scalar (.bool true), 3) else (.bad, 0)
  | 'f' => if ['a', 'l', 's', 'e'].isPrefixOf cs then (.scalar (.bool false), 4) else (.bad, 0)
  | 'n' => if ['u', 'l', 'l'].isPrefixOf cs then (.scalar .null, 3) else (.bad, 0)
  | c => if c = '-' ∨ c.isDigit then numberLexeme c cs else (.bad, 0)

def lexemes : List Char → List Lexeme
  | [] => []
  | c :: cs =>
    if isSpace c then lexemes cs
    else
      let (l, n) := lexeme c cs
      l :: lexemes (cs.drop n)
termination_by cs => cs.length
decreasing_by all_goals (simp only [List.length_cons, List.length_drop]; omega)

end BearerTokens.Json
