import BearerTokens.Url.Basic

/-! # Numeric hosts

A host can be an address of four numbers between dots or of eight groups between colons.
-/

namespace BearerTokens.Url

/-! ## Addresses of four numbers -/

/-- A number to base ten, eight or sixteen; the marks of the last two are `0` and `0x`. -/
def hostNumber? (cs : List Char) : Option Nat :=
  let number (base : Nat) (digits : List Char) : Option Nat :=
    digits.foldlM (fun n c => do
      let v ← Text.Form.digitValue? c
      if v < base then some (n * base + v) else none) 0
  match cs with
  | [] => none
  | '0' :: 'x' :: rest => number 16 rest
  | '0' :: 'X' :: rest => number 16 rest
  | '0' :: d :: rest => number 8 (d :: rest)
  | cs => number 10 cs

def withoutLastEmpty (parts : List (List Char)) : List (List Char) :=
  if parts.getLast? = some [] ∧ 1 < parts.length then parts.dropLast else parts

/-- A name whose last part is a number is meant as an address. -/
def endsInNumber (name : List Char) : Bool :=
  match (withoutLastEmpty (splitAt (· == '.') name)).getLast? with
  | some last => (!last.isEmpty && last.all Char.isDigit) || (hostNumber? last).isSome
  | none => false

/-- The four numbers of an address; the last written part fills what is left. -/
def fourNumbers? (name : List Char) : Option (List Nat) := do
  let numbers ← (withoutLastEmpty (splitAt (· == '.') name)).mapM hostNumber?
  let last ← numbers.getLast?
  let lead := numbers.dropLast
  if lead.length ≤ 3 && lead.all (· < 256) && last < 1 <<< (8 * (4 - lead.length)) then
    some (lead ++ (List.range (4 - lead.length)).reverse.map fun i => (last >>> (8 * i)) % 256)
  else none

/-! ## Addresses of eight groups -/

def groupValue? (cs : List Char) : Option Nat :=
  if cs.isEmpty || 4 < cs.length then none
  else cs.foldlM (fun n c => (Text.Form.digitValue? c).map (n * 16 + ·)) 0

/-- Groups between colons; at the end of the address the last may be one of four numbers without
leading zeros. -/
def groups? (isEnd : Bool) : List (List Char) → Option (List Nat)
  | [] => some []
  | [last] =>
    if isEnd && last.contains '.' then do
      let parts := splitAt (· == '.') last
      let isPlain (p : List Char) : Bool :=
        p.all Char.isDigit && (p.length = 1 || p.head? ≠ some '0')
      let numbers ← parts.mapM hostNumber?
      match numbers with
      | [a, b, c, d] =>
        if parts.all isPlain && numbers.all (· < 256) then some [a * 256 + b, c * 256 + d] else none
      | _ => none
    else (groupValue? last).map ([·])
  | g :: rest => do some ((← groupValue? g) :: (← groups? isEnd rest))

def cutDouble : List Char → List Char × Option (List Char)
  | [] => ([], none)
  | ':' :: ':' :: rest => ([], some rest)
  | c :: rest =>
    let cut := cutDouble rest
    (c :: cut.1, cut.2)

def groupsOf? (isEnd : Bool) (cs : List Char) : Option (List Nat) :=
  if cs.isEmpty then some [] else groups? isEnd (splitAt (· == ':') cs)

/-- The eight groups of an address; a double colon stands for one or more groups of zero. -/
def eightGroups? (cs : List Char) : Option (List Nat) := do
  match cutDouble cs with
  | (all, none) =>
    let groups ← groupsOf? true all
    if groups.length = 8 then some groups else none
  | (lead, some tail) =>
    let before ← groupsOf? false lead
    let after ← groupsOf? true tail
    if before.length + after.length < 8 then
      some (before ++ List.replicate (8 - before.length - after.length) 0 ++ after)
    else none

def zeroRun (groups : List Nat) : Nat := (groups.takeWhile (· == 0)).length

def longestZeros (groups : List Nat) : Option (Nat × Nat) :=
  (List.range groups.length).foldl (fun best i =>
    let n := zeroRun (groups.drop i)
    match best with
    | some (_, m) => if m < n then some (i, n) else best
    | none => if 2 ≤ n then some (i, n) else none) none

def groupText (n : Nat) : String := String.ofList (Nat.toDigits 16 n)

def groupsText (groups : List Nat) : String := ":".intercalate (groups.map groupText)

def eightText (groups : List Nat) : String :=
  match longestZeros groups with
  | some (i, n) =>
    "[" ++ groupsText (groups.take i) ++ "::" ++ groupsText (groups.drop (i + n)) ++ "]"
  | none => "[" ++ groupsText groups ++ "]"

end BearerTokens.Url
