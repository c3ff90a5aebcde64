/-! # Base64

Three bytes make four symbols of six bits.  A last group of one or two bytes makes two or three
symbols whose unused bits are zero.  The module has the group code for any alphabet and two ways to
treat the closing `=` signs: written out in full, or optional on reading.
-/

namespace BearerTokens.Text.Base64

/-- The two symbols in which alphabets differ: those of the values 62 and 63. -/
structure Alphabet where
  plus : Char
  slash : Char

def standard : Alphabet := ⟨'+', '/'⟩

def urlSafe : Alphabet := ⟨'-', '_'⟩

def symbol (a : Alphabet) (v : Nat) : Char :=
  if v < 26 then Char.ofNat (65 + v)
  else if v < 52 then Char.ofNat (97 + (v - 26))
  else if v < 62 then Char.ofNat (48 + (v - 52))
  else if v = 62 then a.plus else a.slash

def value? (a : Alphabet) (c : Char) : Option Nat :=
  if 'A' ≤ c ∧ c ≤ 'Z' then some (c.toNat - 65)
  else if 'a' ≤ c ∧ c ≤ 'z' then some (c.toNat - 97 + 26)
  else if '0' ≤ c ∧ c ≤ '9' then some (c.toNat - 48 + 52)
  else if c = a.plus then some 62
  else if c = a.slash then some 63
  else none

def encode (a : Alphabet) : List UInt8 → List Char
  | [] => []
  | [x] => [symbol a (x.toNat / 4), symbol a (x.toNat % 4 * 16)]
  | [x, y] =>
    [symbol a (x.toNat / 4), symbol a (x.toNat % 4 * 16 + y.toNat / 16),
      symbol a (y.toNat % 16 * 4)]
  | x :: y :: z :: rest =>
    symbol a (x.toNat / 4) :: symbol a (x.toNat % 4 * 16 + y.toNat / 16) ::
      symbol a (y.toNat % 16 * 4 + z.toNat / 64) :: symbol a (z.toNat % 64) :: encode a rest

/-- Number of `=` signs that close `n` symbols to a whole group. -/
def closing (n : Nat) : Nat := (4 - n % 4) % 4

def encodePadded (a : Alphabet) (bytes : List UInt8) : List Char :=
  let symbols := encode a bytes
  symbols ++ List.replicate (closing symbols.length) '='

/-- The bytes of a row of symbols.  A single left-over symbol and unused bits that are not zero are
refused. -/
def decode (a : Alphabet) : List Char → Option (List UInt8)
  | [] => some []
  | [_] => none
  | [c, d] => do
    let u ← value? a c
    let v ← value? a d
    if v % 16 = 0 then some [UInt8.ofNat (u * 4 + v / 16)] else none
  | [c, d, e] => do
    let u ← value? a c
    let v ← value? a d
    let w ← value? a e
    if w % 4 = 0 then
      some [UInt8.ofNat (u * 4 + v / 16), UInt8.ofNat (v % 16 * 16 + w / 4)]
    else none
  | c :: d :: e :: f :: rest => do
    let u ← value? a c
    let v ← value? a d
    let w ← value? a e
    let x ← value? a f
    let tail ← decode a rest
    some (UInt8.ofNat (u * 4 + v / 16) :: UInt8.ofNat (v % 16 * 16 + w / 4) ::
      UInt8.ofNat (w % 4 * 64 + x) :: tail)

/-- Reads symbols that are followed by none, some or all of their closing signs. -/
def decodeLenient (a : Alphabet) (cs : List Char) : Option (List UInt8) :=
  let signs := (cs.reverse.takeWhile (· == '=')).length
  let symbols := cs.take (cs.length - signs)
  if signs ≤ closing symbols.length then decode a symbols else none

end BearerTokens.Text.Base64
