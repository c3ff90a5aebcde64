import BearerTokens.Text.Quoted

/-! # JSON values and their compact text

A value keeps the order and the repetitions of its members.  A written string may hold half of a
surrogate pair; it then stands for no text, and only a reader that skips the value accepts it.
-/

namespace BearerTokens

/-- A written number: all its digits as one integer, how many of them are its fraction, and its
exponent. -/
structure Numeral where
  negative : Bool := false
  digits : Nat
  places : Nat := 0
  exponent : Int := 0
  /-- Neither a fraction nor an exponent was written. -/
  plain : Bool := true
deriving DecidableEq, Inhabited

/-- A JSON value.  A string or a member's name is absent when it stands for no text. -/
inductive Json where
  | null
  | bool (b : Bool)
  | number (n : Numeral)
  | string (s : Option String)
  | array (items : List Json)
  | object (members : List (Option String × Json))
deriving Inhabited

namespace Numeral

def ofInt (i : Int) : Numeral := { negative := i < 0, digits := i.natAbs }

/-- The integer a number stands for, when it is written as one that fits 64 bits with or without
sign.  A negative zero is no integer. -/
def int? (n : Numeral) : Option Int :=
  if n.plain then
    if n.negative then
      if 0 < n.digits ∧ n.digits ≤ UInt64.size / 2 then some (-(n.digits : Int)) else none
    else if n.digits < UInt64.size then some (n.digits : Int) else none
  else none

def appendFitting (n : Nat) : List Char → Nat × Nat
  | [] => (n, 0)
  | c :: rest =>
    let next := n * 10 + (c.toNat - 48)
    if next < UInt64.size then
      let (last, count) := appendFitting next rest
      (last, count + 1)
    else (n, 0)

/-- The number as 64 bits times a power of ten.  Digits before the point that do not fit add to the
power; those after it that do not fit are left out. -/
def approximation (n : Numeral) : Nat × Int :=
  let unit := Nat.pow 10 n.places
  let whole := Nat.toDigits 10 (n.digits / unit)
  let fraction := (Nat.toDigits 10 (unit + n.digits % unit)).drop 1
  let (start, before) := appendFitting 0 whole
  let (significand, after) := appendFitting start fraction
  (significand, n.exponent + (whole.length - before : Nat) - after)

/-- The nearest number with 53 significant bits; a tie goes to the even one. -/
def round53 (n : Nat) : Nat :=
  let shift := Nat.log2 n - 52
  let unit := 1 <<< shift
  let kept := n / unit
  let rest := 2 * (n % unit)
  (if unit < rest ∨ (unit = rest ∧ kept % 2 = 1) then kept + 1 else kept) * unit

/-- The product of the rounded approximation and the rounded power of ten rounds to a finite binary
fraction of 64 bits. -/
def isFinite (n : Numeral) : Bool :=
  let (significand, power) := n.approximation
  let limit := (1 <<< 1024) - (1 <<< 970)
  significand == 0 || power < 0 ||
    (power ≤ 308 && round53 significand * round53 (Nat.pow 10 power.toNat) < limit)

def write (n : Numeral) : List Char :=
  (if n.negative then ['-'] else []) ++ (toString n.digits).toList ++
    (if n.plain then [] else 'e' :: (toString (n.exponent - n.places)).toList)

end Numeral

namespace Json

def text (s : String) : Json := .string (some s)

def int (i : Int) : Json := .number (.ofInt i)

def ofFields (fields : List (String × Json)) : Json :=
  .object (fields.map fun (name, v) => (some name, v))

def escapedChar (c : Char) : List Char :=
  match c with
  | '"' => ['\\', '"']
  | '\\' => ['\\', '\\']
  | '\x08' => ['\\', 'b']
  | '\x0c' => ['\\', 'f']
  | '\n' => ['\\', 'n']
  | '\r' => ['\\', 'r']
  | '\t' => ['\\', 't']
  | c =>
    if c.toNat < 32 then
      ['\\', 'u', '0', '0', Text.hexDigit (c.toNat / 16), Text.hexDigit (c.toNat % 16)]
    else [c]

def writeString (s : String) : List Char := '"' :: s.toList.flatMap escapedChar ++ ['"']

mutual

/-- The compact text of a value.  A string that stands for no text is written as null. -/
def writeChars : Json → List Char
  | .null => ['n', 'u', 'l', 'l']
  | .bool true => ['t', 'r', 'u', 'e']
  | .bool false => ['f', 'a', 'l', 's', 'e']
  | .number n => n.write
  | .string s => (s.map writeString).getD ['n', 'u', 'l', 'l']
  | .array items => '[' :: writeItems items ++ [']']
  | .object members => '\x7b' :: writeMembers members ++ ['\x7d']

def writeItems : List Json → List Char
  | [] => []
  | [v] => writeChars v
  | v :: w :: rest => writeChars v ++ ',' :: writeItems (w :: rest)

def writeMembers : List (Option String × Json) → List Char
  | [] => []
  | [(name, v)] => writeString (name.getD "") ++ ':' :: writeChars v
  | (name, v) :: m :: rest =>
    writeString (name.getD "") ++ ':' :: (writeChars v ++ ',' :: writeMembers (m :: rest))

end

def write (v : Json) : String := String.ofList v.writeChars

end Json

end BearerTokens
