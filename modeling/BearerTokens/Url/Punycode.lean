import BearerTokens.Url.Basic

/-! # Labels in ASCII form

A label with characters beyond ASCII is written with those of ASCII alone: first the ASCII
characters in their order and a hyphen, and then, by increasing code point, how far to go to the
place of each other character.  The distances are numbers whose digits have thresholds that adapt
to the distances before.  Reading goes the same way back.
-/

namespace BearerTokens.Url

def isAscii (c : Char) : Bool := c.toNat < 128

/-! ## Digits -/

def labelDigit (n : Nat) : Char := if n < 26 then Char.ofNat (97 + n) else Char.ofNat (22 + n)

def labelDigitValue? (c : Char) : Option Nat :=
  if 'a' ≤ c ∧ c ≤ 'z' then some (c.toNat - 97)
  else if '0' ≤ c ∧ c ≤ '9' then some (c.toNat - 22)
  else none

def threshold (place bias : Nat) : Nat :=
  if place ≤ bias then 1 else if bias + 26 ≤ place then 26 else place - bias

theorem threshold_pos (place bias : Nat) : 0 < threshold place bias := by
  unfold threshold
  split
  · omega
  · split <;> omega

/-- Divides by 35 until at most 455 is left, and counts 36 for each division. -/
def shrink (delta k : Nat) : Nat × Nat :=
  if 455 < delta then shrink (delta / 35) (k + 36) else (delta, k)
termination_by delta
decreasing_by omega

/-- The bias after a distance; `count` characters have their place by then. -/
def adapt (delta count : Nat) (first : Bool) : Nat :=
  let delta := if first then delta / 700 else delta / 2
  let (delta, k) := shrink (delta + delta / count) 0
  k + 36 * delta / (delta + 38)

/-! ## Writing -/

def labelNumber (bias place q : Nat) : List Char :=
  let t := threshold place bias
  if h : q < t then [labelDigit q]
  else labelDigit (t + (q - t) % (36 - t)) :: labelNumber bias (place + 36) ((q - t) / (36 - t))
termination_by q
decreasing_by
  have := threshold_pos place bias
  have := Nat.div_le_self (q - threshold place bias) (36 - threshold place bias)
  show (q - threshold place bias) / (36 - threshold place bias) < q
  have : ¬ q < threshold place bias := h
  omega

structure LabelState where
  out : List Char
  delta : Nat := 0
  bias : Nat := 72
  handled : Nat
  first : Bool := true

/-- Writes all occurrences of the code point `n`, with all smaller ones handled. -/
def encodePoint (label : List Char) (n : Nat) (s : LabelState) : LabelState :=
  let s := label.foldl (fun s c =>
    if c.toNat < n then { s with delta := s.delta + 1 }
    else if c.toNat = n then
      { out := s.out ++ labelNumber s.bias 36 s.delta
        delta := 0
        bias := adapt s.delta (s.handled + 1) s.first
        handled := s.handled + 1
        first := false }
    else s) s
  { s with delta := s.delta + 1 }

def encodeLabel (label : List Char) : List Char :=
  let basic := label.filter isAscii
  let points := ((label.filter (!isAscii ·)).map Char.toNat).eraseDups.mergeSort
  let start : LabelState :=
    { out := if basic.isEmpty then [] else basic ++ ['-'], handled := basic.length }
  let (s, _) := points.foldl (fun ((s, next) : LabelState × Nat) n =>
    (encodePoint label n { s with delta := s.delta + (n - next) * (s.handled + 1) }, n + 1))
    (start, 128)
  s.out

/-! ## Reading -/

def fitting? (n : Nat) : Option Nat := if n < UInt32.size then some n else none

/-- Reads a number from a place on, adds it to a sum, and gives the rest of the digits. -/
def readNumber? (bias place weight sum : Nat) : List Char → Option (Nat × List Char)
  | [] => none
  | c :: rest => do
    let digit ← labelDigitValue? c
    let sum ← fitting? (sum + digit * weight)
    let t := threshold place bias
    if digit < t then some (sum, rest)
    else readNumber? bias (place + 36) (← fitting? (weight * (36 - t))) sum rest

structure LabelReading where
  place : Nat := 0
  point : Nat := 128
  bias : Nat := 72
  out : List Char

def LabelReading.next? (r : LabelReading) (sum : Nat) : Option LabelReading :=
  let count := r.out.length + 1
  let point := r.point + sum / count
  if point.isValidChar then
    some
      { place := sum % count + 1
        point
        bias := adapt (sum - r.place) count (r.place == 0)
        out := r.out.insertIdx (sum % count) (Char.ofNat point) }
  else none

def readNumbers? : Nat → LabelReading → List Char → Option (List Char)
  | _, r, [] => some r.out
  | 0, _, _ => none
  | fuel + 1, r, cs => do
    let (sum, rest) ← readNumber? r.bias 36 1 r.place cs
    readNumbers? fuel (← r.next? sum) rest

/-- The label that an ASCII form stands for.  The last hyphen ends the ASCII characters, unless
there are none before it. -/
def decodeLabel? (code : List Char) : Option (List Char) :=
  let digits := (code.reverse.takeWhile (· != '-')).reverse
  let basic := code.take (code.length - digits.length - 1)
  if !basic.all isAscii then none
  else
    let digits := if basic.isEmpty then code else digits
    readNumbers? digits.length { out := basic } digits

end BearerTokens.Url
