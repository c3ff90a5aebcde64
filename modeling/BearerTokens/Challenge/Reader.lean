import BearerTokens.Challenge.Basic

/-! # Reading challenges

Challenges stand in a row with commas between them.  A comma followed by a name and `=` continues
the parameters of the challenge; a comma followed by anything else starts a new challenge.  Quoted
values may hold commas, and a backslash in them keeps the next character.  What fits nowhere is
skipped.  Every reader answers the part of the text that it leaves.
-/

namespace BearerTokens.Challenge

open Http (isTokenChar)

def isGap (c : Char) : Bool := c == ' ' || c == '\t'

def isSeparator (c : Char) : Bool := c == ',' || Text.isAsciiBlank c

def isPayloadChar (c : Char) : Bool :=
  c.isAlphanum || ['-', '.', '_', '~', '+', '/'].contains c

/-- A payload at the start of a text.  It ends the challenge: after a gap comes a comma or
nothing. -/
def takePayload (cs : List Char) : Option (List Char × List Char) :=
  let body := cs.takeWhile isPayloadChar
  let after := cs.dropWhile isPayloadChar
  let rest := (after.dropWhile (· == '=')).dropWhile isGap
  if body.isEmpty then none
  else if rest.isEmpty || rest.head? == some ',' then
    some (body ++ after.takeWhile (· == '='), rest)
  else none

def startsParam (cs : List Char) : Bool :=
  !(cs.takeWhile isTokenChar).isEmpty &&
    ((cs.dropWhile isTokenChar).dropWhile isGap).head? == some '='

/-- The rest of a quoted value after its opening quote.  A value without closing quote runs to the
end. -/
def takeQuoted : List Char → List Char × List Char
  | [] => ([], [])
  | '"' :: rest => ([], rest)
  | ['\\'] => ([], [])
  | '\\' :: c :: rest =>
    let read := takeQuoted rest
    (c :: read.1, read.2)
  | c :: rest =>
    let read := takeQuoted rest
    (c :: read.1, read.2)

def isBareChar (c : Char) : Bool := c != ',' && !Text.isAsciiBlank c

def takeValue : List Char → List Char × List Char
  | '"' :: rest => takeQuoted rest
  | cs => (cs.takeWhile isBareChar, cs.dropWhile isBareChar)

def takeParam (cs : List Char) : (String × String) × List Char :=
  let afterName := (cs.dropWhile isTokenChar).dropWhile isGap
  let (value, rest) := takeValue ((afterName.drop 1).dropWhile isGap)
  ((String.ofList (cs.takeWhile isTokenChar), String.ofList value), rest)

theorem length_dropWhile_le (p : Char → Bool) (cs : List Char) :
    (cs.dropWhile p).length ≤ cs.length := (List.dropWhile_suffix p).length_le

theorem length_dropWhile_lt {p : Char → Bool} {cs : List Char}
    (h : (cs.takeWhile p).isEmpty = false) : (cs.dropWhile p).length < cs.length := by
  cases cs with
  | nil => simp at h
  | cons c cs =>
    by_cases hc : p c = true
    · simpa [List.dropWhile_cons, hc] using
        Nat.lt_succ_of_le (length_dropWhile_le p cs)
    · simp [hc] at h

theorem length_takeQuoted_le (cs : List Char) : (takeQuoted cs).2.length ≤ cs.length := by
  fun_induction takeQuoted cs with
  | case4 c rest read ih => simp only [read, List.length_cons]; omega
  | case5 =>
    rename_i read ih
    simp only [read, List.length_cons]
    omega
  | _ => simp

theorem length_takeValue_le (cs : List Char) : (takeValue cs).2.length ≤ cs.length := by
  unfold takeValue
  split
  · simpa using Nat.le_succ_of_le (length_takeQuoted_le _)
  · exact length_dropWhile_le _ _

theorem length_takeParam_lt {cs : List Char} (h : startsParam cs = true) :
    (takeParam cs).2.length < cs.length := by
  simp only [startsParam, Bool.and_eq_true, Bool.not_eq_true'] at h
  have hname := length_dropWhile_lt h.1
  have hgap := length_dropWhile_le isGap (cs.dropWhile isTokenChar)
  simp only [takeParam]
  refine Nat.lt_of_le_of_lt (length_takeValue_le _) ?_
  refine Nat.lt_of_le_of_lt (length_dropWhile_le _ _) ?_
  simp only [List.length_drop]
  omega

/-- Parameters at the start of a text.  After each one the text up to the next comma is skipped;
that comma is left when no further parameter follows. -/
def takeParams (cs : List Char) : List (String × String) × List Char :=
  let start := cs.dropWhile isGap
  if _h : startsParam start = true then
    let param := takeParam start
    let separator := param.2.dropWhile (· != ',')
    let next := separator.dropWhile isSeparator
    if startsParam next then
      let more := takeParams next
      (param.1 :: more.1, more.2)
    else ([param.1], separator)
  else ([], start)
termination_by cs.length
decreasing_by
  all_goals
    have h1 := @length_takeParam_lt (cs.dropWhile isGap) _h
    have h2 := length_dropWhile_le isGap cs
    have h3 := length_dropWhile_le (· != ',') (takeParam (cs.dropWhile isGap)).2
    have h4 := length_dropWhile_le isSeparator
      ((takeParam (cs.dropWhile isGap)).2.dropWhile (· != ','))
    omega

theorem length_takeParams_le (cs : List Char) : (takeParams cs).2.length ≤ cs.length := by
  fun_induction takeParams cs with
  | case1 cs start h param separator next hn more ih =>
    have h1 := length_takeParam_lt h
    have h2 := length_dropWhile_le isGap cs
    have h3 := length_dropWhile_le (· != ',') (takeParam start).2
    have h4 := length_dropWhile_le isSeparator separator
    simp only [start, param, separator, next, more] at *
    omega
  | case2 cs start h param separator next hn =>
    have h1 := length_takeParam_lt h
    have h2 := length_dropWhile_le isGap cs
    have h3 := length_dropWhile_le (· != ',') (takeParam start).2
    simp only [start, param, separator] at *
    omega
  | case3 cs start h => exact length_dropWhile_le _ _

def takeDetails (scheme : String) (cs : List Char) : Challenge × List Char :=
  let start := cs.dropWhile isGap
  match takePayload start with
  | some (payload, rest) => ({ scheme, payload := some (String.ofList payload) }, rest)
  | none =>
    let read := takeParams start
    ({ scheme, params := read.1 }, read.2)

theorem length_takePayload_le {cs payload rest : List Char}
    (h : takePayload cs = some (payload, rest)) : rest.length ≤ cs.length := by
  simp only [takePayload] at h
  split at h
  · simp at h
  · split at h
    · simp only [Option.some.injEq, Prod.mk.injEq] at h
      rw [← h.2]
      exact Nat.le_trans (length_dropWhile_le _ _)
        (Nat.le_trans (length_dropWhile_le _ _) (length_dropWhile_le _ _))
    · simp at h

theorem length_takeDetails_le (scheme : String) (cs : List Char) :
    (takeDetails scheme cs).2.length ≤ cs.length := by
  simp only [takeDetails]
  split
  · rename_i h
    exact Nat.le_trans (length_takePayload_le h) (length_dropWhile_le _ _)
  · exact Nat.le_trans (length_takeParams_le _) (length_dropWhile_le _ _)

/-- The challenges of a text.  A character that starts no scheme is dropped. -/
def readChars (cs : List Char) : List Challenge :=
  match _hs : cs.dropWhile isSeparator with
  | [] => []
  | c :: rest =>
    if _hw : ((c :: rest).takeWhile isTokenChar).isEmpty = true then readChars rest
    else
      let scheme := String.ofList ((c :: rest).takeWhile isTokenChar)
      let read := takeDetails scheme ((c :: rest).dropWhile isTokenChar)
      read.1 :: readChars read.2
termination_by cs.length
decreasing_by
  · have h := length_dropWhile_le isSeparator cs
    rw [_hs] at h
    exact h
  · have h := length_dropWhile_le isSeparator cs
    rw [_hs] at h
    have h1 := length_dropWhile_lt (Bool.eq_false_iff.2 _hw)
    exact Nat.lt_of_le_of_lt (length_takeDetails_le _ _) (Nat.lt_of_lt_of_le h1 h)

def read (header : String) : List Challenge := readChars header.toList

def claimsOf (header : String) (bearer : String) : Option String :=
  (((read header).filter (·.hasScheme bearer)).findSome? (·.param? claimsParam)).bind decodeClaims

end BearerTokens.Challenge
