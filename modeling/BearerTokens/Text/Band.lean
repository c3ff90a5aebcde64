import BearerTokens.Text.Form

/-! # Tables of code points

A table is a row of bands: runs of consecutive code points with something that holds of them all.
The bands lie in increasing order and apart from each other, so that halving finds the one of a
character.

Tables are written as texts of numbers to base sixteen, between blanks.  A run is one number or two
with a hyphen.  In a table of images a number with a colon is followed by the images of the code
points from there on, each a row of numbers with dots, or `~` for a code point that has none.
-/

namespace BearerTokens.Text

structure Band (α : Type) where
  first : Nat
  last : Nat
  value : α

/-- The bands of a table, in increasing order and apart from each other. -/
abbrev Bands (α : Type) := Array (Band α)

namespace Bands

variable {α : Type}

/-- The band of a number among those from one index up to another. -/
def findIn (t : Bands α) (n lo hi : Nat) : Option (Band α) :=
  if lo < hi then
    let mid := (lo + hi) / 2
    match t[mid]? with
    | none => none
    | some band =>
      if n < band.first then t.findIn n lo mid
      else if band.last < n then t.findIn n (mid + 1) hi
      else some band
  else none
termination_by hi - lo
decreasing_by all_goals omega

def find? (t : Bands α) (c : Char) : Option (Band α) := t.findIn c.toNat 0 t.size

def contains (t : Bands α) (c : Char) : Bool := (t.find? c).isSome

def value? (t : Bands α) (c : Char) : Option α := (t.find? c).map (·.value)

/-! ## Written tables -/

def words (s : String) : List String :=
  ((s.splitOn "\n").flatMap (·.splitOn " ")).filter (!·.isEmpty)

def number (s : String) : Nat := s.foldl (fun n c => n * 16 + (Form.digitValue? c).getD 0) 0

/-- The runs of a text, all with one value. -/
def runs (value : α) (s : String) : List (Band α) :=
  (words s).map fun w =>
    match w.splitOn "-" with
    | [first, last] => ⟨number first, number last, value⟩
    | _ => ⟨number w, number w, value⟩

def ofRuns (s : String) : Bands Unit := (runs () s).toArray

/-- The table of classes that have no code point in common. -/
def ofClasses (classes : List (α × String)) : Bands α :=
  ((classes.flatMap fun (value, s) => runs value s).mergeSort (·.first ≤ ·.first)).toArray

def image (w : String) : Option (List Char) :=
  if w = "~" then none else some ((w.splitOn ".").map fun n => Char.ofNat (number n))

def ofImages (s : String) : Bands (Array (Option (List Char))) :=
  let (_, rows) := (words s).foldr (fun w (pending, rows) =>
    match w.splitOn ":" with
    | [start, _] =>
      let first := number start
      ([], ⟨first, first + pending.length - 1, pending.toArray⟩ :: rows)
    | _ => (image w :: pending, rows))
    (([], []) : List (Option (List Char)) × List (Band (Array (Option (List Char)))))
  rows.toArray

def image? (t : Bands (Array (Option (List Char)))) (c : Char) : Option (List Char) := do
  let band ← t.find? c
  (band.value[c.toNat - band.first]?).join

end Bands

end BearerTokens.Text
