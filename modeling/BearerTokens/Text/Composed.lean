import BearerTokens.Text.Decomposition
import BearerTokens.Text.Mark

/-! # The composed form of a text

The same text can be written in several ways: a letter with an accent as one character or as two,
several accents in any order.  The composed form takes every character apart, puts the marks of each
character in order, and joins again what makes up one character.
-/

namespace BearerTokens.Text

/-! ## Syllables

A syllable is made of a lead, a vowel and perhaps a tail, and numbered by the three.
-/

abbrev firstSyllable : Nat := 0xAC00
abbrev firstLead : Nat := 0x1100
abbrev firstVowel : Nat := 0x1161
/-- The number before that of the first tail. -/
abbrev noTail : Nat := 0x11A7
abbrev leadCount : Nat := 19
abbrev vowelCount : Nat := 21
abbrev tailCount : Nat := 28

def isSyllable (c : Char) : Bool :=
  firstSyllable ≤ c.toNat && c.toNat < firstSyllable + leadCount * vowelCount * tailCount

def syllableParts (c : Char) : List Char :=
  let n := c.toNat - firstSyllable
  let lead := Char.ofNat (firstLead + n / tailCount / vowelCount)
  let vowel := Char.ofNat (firstVowel + n / tailCount % vowelCount)
  if n % tailCount = 0 then [lead, vowel] else [lead, vowel, Char.ofNat (noTail + n % tailCount)]

def syllable? (a b : Char) : Option Char :=
  let isLead := firstLead ≤ a.toNat && a.toNat < firstLead + leadCount
  let isVowel := firstVowel ≤ b.toNat && b.toNat < firstVowel + vowelCount
  let isOpen := isSyllable a && (a.toNat - firstSyllable) % tailCount == 0
  let isTail := noTail < b.toNat && b.toNat < noTail + tailCount
  if isLead && isVowel then
    let number := (a.toNat - firstLead) * vowelCount + (b.toNat - firstVowel)
    some (Char.ofNat (firstSyllable + number * tailCount))
  else if isOpen && isTail then some (Char.ofNat (a.toNat + (b.toNat - noTail)))
  else none

/-! ## Taking apart -/

/-- The parts of a compound; no compound has more than three marks. -/
def compoundParts : Nat → Char → List Char
  | 0, c => [c]
  | depth + 1, c =>
    match compoundTable.image? c with
    | some (base :: marks) => compoundParts depth base ++ marks
    | _ => [c]

def parts (c : Char) : List Char :=
  if c.toNat < 0xC0 then [c]
  else if isSyllable c then syllableParts c
  else
    match variantTable.image? c with
    | some cs => cs
    | none => compoundParts 3 c

/-! ## Marks in order -/

/-- Puts a character before a text whose marks are in order.  A mark moves behind those of smaller
classes. -/
def insertMark (c : Char) : List Char → List Char
  | [] => [c]
  | d :: rest =>
    if 0 < combiningClass d && combiningClass d < combiningClass c then d :: insertMark c rest
    else c :: d :: rest

def orderMarks (cs : List Char) : List Char := cs.foldr insertMark []

/-! ## Joining -/

def pairNumber (a b : Char) : Nat := a.toNat * 0x110000 + b.toNat

/-- The compounds, each at the number of the pair that makes it up. -/
def compounds : Bands Char :=
  let pairs := compoundTable.toList.flatMap fun band =>
    band.value.toList.zipIdx.filterMap fun
      | (some [a, b], i) => some ⟨pairNumber a b, pairNumber a b, Char.ofNat (band.first + i)⟩
      | _ => none
  (pairs.mergeSort (·.first ≤ ·.first)).toArray

def join? (a b : Char) : Option Char :=
  (syllable? a b).or ((compounds.findIn (pairNumber a b) 0 compounds.size).map (·.value))

structure Joined where
  done : List Char := []
  /-- The latest character that is no mark. -/
  base : Option Char := none
  /-- The marks after it that did not join. -/
  marks : List Char := []

namespace Joined

def all (j : Joined) : List Char := j.marks ++ j.base.toList ++ j.done

/-- A mark before the character keeps it from the base unless that mark is of a smaller class. -/
def blocks (j : Joined) (c : Char) : Bool :=
  match j.marks with
  | [] => false
  | mark :: _ => combiningClass c ≤ combiningClass mark

def add (j : Joined) (c : Char) : Joined :=
  let joint := if j.blocks c then none else j.base.bind (join? · c)
  match joint with
  | some d => { j with base := some d }
  | none =>
    if combiningClass c = 0 then { done := j.all, base := some c }
    else { j with marks := c :: j.marks }

end Joined

/-- The composed form of a text.  The characters below U+0300 neither come apart for good nor join
with each other. -/
def composed (cs : List Char) : List Char :=
  if cs.all (·.toNat < 0x300) then cs
  else ((orderMarks (cs.flatMap parts)).foldl Joined.add {}).all.reverse

end BearerTokens.Text
