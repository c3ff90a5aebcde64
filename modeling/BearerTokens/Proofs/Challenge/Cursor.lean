import BearerTokens.Proofs.Challenge.Prefixes
import Mathlib.Data.String.Basic

/-! # Reading with a cursor

Here the reader has the whole text and a cursor, which counts the bytes before it.  To look at the text it is cut at
the cursor, and no cut is within a character or past the end.  A loop takes turns, each from where the last one has
left the cursor.  To find out whether a payload or a parameter follows, the reader looks ahead, and then the cursor
goes back.
-/

namespace BearerTokens.Challenge.Cursor

open Http (isTokenChar)
open String (utf8Len)

variable {α : Type} {p : Char → Bool} {text rest rest' run : List Char} {pos stop : Nat} {c : Char}

/-! ## Cuts -/

/-- Cuts a number of bytes off a text, unless that is within a character or past the end. -/
def cut? : List Char → Nat → Option (List Char × List Char)
  | cs, 0 => some ([], cs)
  | [], _ + 1 => none
  | c :: cs, n + 1 =>
    if c.utf8Size ≤ n + 1 then (cut? cs (n + 1 - c.utf8Size)).map (Prod.map (c :: ·) id) else none

theorem cut?_zero_eq_some_iff :
    cut? text 0 = some (run, rest) ↔ text = run ++ rest ∧ utf8Len run = 0 := by
  have hcut : cut? text 0 = some ([], text) := by cases text <;> rfl
  rw [hcut, String.utf8Len_eq_zero]
  constructor
  · rintro ⟨⟩
    exact ⟨rfl, rfl⟩
  · rintro ⟨rfl, rfl⟩
    rfl

theorem cut?_eq_some_iff {n : Nat} :
    cut? text n = some (run, rest) ↔ text = run ++ rest ∧ utf8Len run = n := by
  induction text generalizing n run with
  | nil =>
    cases n with
    | zero => exact cut?_zero_eq_some_iff
    | succ n => cases run <;> simp [cut?]
  | cons c cs ih =>
    cases n with
    | zero => exact cut?_zero_eq_some_iff
    | succ n =>
      rw [cut?]
      constructor
      · intro h
        split at h
        next hle =>
          obtain ⟨⟨front, rest⟩, hcut, hpair⟩ := Option.map_eq_some_iff.mp h
          cases hpair
          obtain ⟨rfl, hlen⟩ := ih.mp hcut
          refine ⟨rfl, ?_⟩
          change utf8Len (c :: front) = n + 1
          rw [String.utf8Len_cons]
          omega
        next => cases h
      · rintro ⟨htext, hlen⟩
        cases run with
        | nil => cases hlen
        | cons d front =>
          obtain ⟨rfl, hrest⟩ := List.cons.inj htext
          rw [String.utf8Len_cons] at hlen
          have hcut : cut? cs (n + 1 - c.utf8Size) = some (front, rest) :=
            ih.mpr ⟨hrest, by omega⟩
          rw [if_pos (by omega), hcut]
          rfl

def rest? (text : List Char) (pos : Nat) : Option (List Char) := (cut? text pos).map Prod.snd

def slice? (text : List Char) (start stop : Nat) : Option (List Char) :=
  if start ≤ stop then (rest? text start).bind fun rest => (cut? rest (stop - start)).map Prod.fst
  else none

theorem rest?_eq_some_iff :
    rest? text pos = some rest ↔ ∃ front, text = front ++ rest ∧ utf8Len front = pos := by
  simp [rest?, cut?_eq_some_iff]

theorem rest?_start (text : List Char) : rest? text 0 = some text :=
  rest?_eq_some_iff.mpr ⟨[], rfl, rfl⟩

/-- What is behind the cursor and what is before it make up the text. -/
theorem add_utf8Len_of_rest? (h : rest? text pos = some rest) :
    pos + utf8Len rest = utf8Len text := by
  obtain ⟨front, rfl, rfl⟩ := rest?_eq_some_iff.mp h
  rw [String.utf8Len_append]

theorem rest?_append (h : rest? text pos = some (run ++ rest)) :
    rest? text (pos + utf8Len run) = some rest := by
  obtain ⟨front, rfl, rfl⟩ := rest?_eq_some_iff.mp h
  exact rest?_eq_some_iff.mpr ⟨front ++ run, by simp, by simp⟩

theorem slice?_eq (h : rest? text pos = some (run ++ rest)) (h' : rest? text stop = some rest) :
    slice? text pos stop = some run := by
  have hpos := add_utf8Len_of_rest? h
  have hstop := add_utf8Len_of_rest? h'
  rw [String.utf8Len_append] at hpos
  have hlen : utf8Len run = stop - pos := by omega
  rw [slice?, if_pos (by omega), h, Option.bind_some, cut?_eq_some_iff.mpr ⟨rfl, hlen⟩]
  rfl

/-- Where less is left the cursor is further on, and it is never past the end. -/
theorem moves_of_rest? (h : rest? text pos = some rest) (h' : rest? text stop = some rest')
    (hs : rest' <:+ rest) (hlt : rest'.length < rest.length) : pos < stop ∧ stop ≤ utf8Len text := by
  obtain ⟨run, rfl⟩ := hs
  have hpos := add_utf8Len_of_rest? h
  have hstop := add_utf8Len_of_rest? h'
  rw [String.utf8Len_append] at hpos
  have hne : utf8Len run ≠ 0 := by
    intro hzero
    rw [String.utf8Len_eq_zero.mp hzero] at hlt
    exact absurd hlt (Nat.lt_irrefl _)
  omega

/-! ## Turns -/

/-- What a turn of a loop finds, whether another follows, and where it leaves the cursor. -/
structure Turn (α : Type) where
  found : Option α := none
  again : Bool
  pos : Nat

/-- A turn that is followed by another one moves the cursor forward, and not past the end. -/
def Forward (limit : Nat) (turn : Nat → Option (Turn α)) : Prop :=
  ∀ pos t, turn pos = some t → t.again = true → pos < t.pos ∧ t.pos ≤ limit

def sweep {limit : Nat} (turn : Nat → Option (Turn α)) (hf : Forward limit turn) (pos : Nat) :
    Option (List α × Nat) :=
  match _ht : turn pos with
  | none => none
  | some t =>
    if _ha : t.again = true then (sweep turn hf t.pos).map (Prod.map (t.found.toList ++ ·) id)
    else some (t.found.toList, t.pos)
termination_by limit - pos
decreasing_by
  have hnext := hf pos t _ht _ha
  omega

theorem sweep_eq {limit : Nat} {turn : Nat → Option (Turn α)} (hf : Forward limit turn) {t : Turn α}
    (ht : turn pos = some t) : sweep turn hf pos =
      if t.again = true then (sweep turn hf t.pos).map (Prod.map (t.found.toList ++ ·) id)
      else some (t.found.toList, t.pos) := by
  rw [sweep]
  split
  next hnone => cases ht.symm.trans hnone
  next t' ht' =>
    cases ht.symm.trans ht'
    rfl

theorem sweep_eq_none {limit : Nat} {turn : Nat → Option (Turn α)} (hf : Forward limit turn)
    (ht : turn pos = none) : sweep turn hf pos = none := by
  rw [sweep]
  split
  next => rfl
  next t ht' => cases ht.symm.trans ht'

/-- A turn that begins at a cut ends at one, not before it, and passes over something if it is not the last. -/
structure Sound (text : List Char) (turn : Nat → Option (Turn α)) : Prop where
  nowhere (pos : Nat) : rest? text pos = none → turn pos = none
  somewhere (pos : Nat) (rest : List Char) : rest? text pos = some rest → ∃ t rest',
    turn pos = some t ∧ rest? text t.pos = some rest' ∧ rest' <:+ rest ∧
      (t.again = true → rest'.length < rest.length)

theorem Sound.forward {turn : Nat → Option (Turn α)} (hs : Sound text turn) :
    Forward (utf8Len text) turn := by
  intro pos t ht ha
  cases h : rest? text pos with
  | none => cases (hs.nowhere pos h).symm.trans ht
  | some rest =>
    obtain ⟨t', rest', ht', h', hsuffix, hlt⟩ := hs.somewhere pos rest h
    cases ht.symm.trans ht'
    exact moves_of_rest? h h' hsuffix (hlt ha)

/-! ## Single characters -/

def peek? (text : List Char) (pos : Nat) : Option (Option Char) := (rest? text pos).map List.head?

def bump? (text : List Char) (pos : Nat) : Option (Option Char × Nat) :=
  (peek? text pos).map fun c => (c, pos + c.elim 0 Char.utf8Size)

theorem peek?_eq (h : rest? text pos = some rest) : peek? text pos = some rest.head? := by
  simp [peek?, h]

theorem bump?_eq (h : rest? text pos = some rest) : ∃ stop,
    bump? text pos = some (rest.head?, stop) ∧ rest? text stop = some rest.tail := by
  cases rest with
  | nil => exact ⟨pos, by simp [bump?, peek?_eq h], h⟩
  | cons c rest =>
    have hsplit : rest? text pos = some ([c] ++ rest) := h
    have hrest : rest? text (pos + c.utf8Size) = some rest := by simpa using rest?_append hsplit
    exact ⟨_, by simp [bump?, peek?_eq h], hrest⟩

/-- Nothing is seen where the text cannot be cut. -/
theorem peek?_eq_none (h : rest? text pos = none) : peek? text pos = none := by simp [peek?, h]

/-! ## Runs of characters -/

def skipTurn (p : Char → Bool) (text : List Char) (pos : Nat) : Option (Turn Empty) := do
  if (← peek? text pos).any p then
    let (_, pos) ← bump? text pos
    some { again := true, pos }
  else some { again := false, pos }

theorem skipTurn_cons (h : rest? text pos = some (c :: rest)) (hc : p c = true) : ∃ stop,
    skipTurn p text pos = some { again := true, pos := stop } ∧ rest? text stop = some rest := by
  obtain ⟨stop, hbump, hstop⟩ := bump?_eq h
  exact ⟨stop, by simp [skipTurn, peek?_eq h, hc, hbump], hstop⟩

theorem skipTurn_stops (h : rest? text pos = some rest) (hs : Stops p rest) :
    skipTurn p text pos = some { again := false, pos } := by
  have hany : rest.head?.any p = false := by
    cases rest with
    | nil => rfl
    | cons c rest => simpa using stops_cons.mp hs
  simp [skipTurn, peek?_eq h, hany]

theorem skipTurn_sound (p : Char → Bool) (text : List Char) : Sound text (skipTurn p text) where
  nowhere pos h := by simp [skipTurn, peek?_eq_none h]
  somewhere pos rest h := by
    cases rest with
    | nil => exact ⟨_, _, skipTurn_stops h (stops_nil p), h, List.suffix_refl _, nofun⟩
    | cons c rest =>
      cases hc : p c with
      | true =>
        obtain ⟨stop, hturn, hstop⟩ := skipTurn_cons h hc
        exact ⟨_, _, hturn, hstop, List.suffix_cons _ _, fun _ => Nat.lt_succ_self _⟩
      | false => exact ⟨_, _, skipTurn_stops h (stops_cons.mpr hc), h, List.suffix_refl _, nofun⟩

theorem sweep_skipTurn (h : rest? text pos = some rest) : ∃ stop,
    sweep (skipTurn p text) (skipTurn_sound p text).forward pos = some ([], stop) ∧
      rest? text stop = some (rest.dropWhile p) := by
  induction rest generalizing pos with
  | nil => exact ⟨pos, by rw [sweep_eq _ (skipTurn_stops h (stops_nil p))]; rfl, h⟩
  | cons c rest ih =>
    cases hc : p c with
    | true =>
      obtain ⟨next, hturn, hnext⟩ := skipTurn_cons h hc
      obtain ⟨stop, hsweep, hstop⟩ := ih hnext
      refine ⟨stop, ?_, by rwa [List.dropWhile_cons_of_pos hc]⟩
      rw [sweep_eq _ hturn, if_pos rfl, hsweep]
      rfl
    | false =>
      refine ⟨pos, ?_, by rwa [List.dropWhile_cons_of_neg (Bool.eq_false_iff.mp hc)]⟩
      rw [sweep_eq _ (skipTurn_stops h (stops_cons.mpr hc))]
      rfl

def skipWhile? (p : Char → Bool) (text : List Char) (pos : Nat) : Option (List Char × Nat) := do
  let (_, stop) ← sweep (skipTurn p text) (skipTurn_sound p text).forward pos
  let run ← slice? text pos stop
  some (run, stop)

theorem skipWhile?_eq (p : Char → Bool) (h : rest? text pos = some rest) : ∃ stop,
    skipWhile? p text pos = some (rest.takeWhile p, stop) ∧
      rest? text stop = some (rest.dropWhile p) := by
  obtain ⟨stop, hsweep, hstop⟩ := sweep_skipTurn (p := p) h
  have hsplit : rest? text pos = some (rest.takeWhile p ++ rest.dropWhile p) := by
    rwa [List.takeWhile_append_dropWhile]
  exact ⟨stop, by simp [skipWhile?, hsweep, slice?_eq hsplit hstop], hstop⟩

theorem skipWhile?_eq_none (p : Char → Bool) (h : rest? text pos = none) :
    skipWhile? p text pos = none := by
  simp [skipWhile?, sweep_eq_none _ ((skipTurn_sound p text).nowhere pos h)]

/-! ## Looking ahead -/

/-- A payload, behind which the cursor is then.  If there is none the cursor goes back. -/
def payload? (text : List Char) (pos : Nat) : Option (Option (List Char) × Nat) := do
  let (body, stop) ← skipWhile? isPayloadChar text pos
  if body.isEmpty then some (none, pos)
  else
    let (_, stop) ← skipWhile? (· == '=') text stop
    let (_, next) ← skipWhile? isGap text stop
    let sign ← peek? text next
    if utf8Len text ≤ next ∨ sign = some ',' then
      let payload ← slice? text pos stop
      some (some payload, next)
    else some (none, pos)

/-- Whether a name, a gap and `=` follow.  The cursor goes back. -/
def param? (text : List Char) (pos : Nat) : Option (Bool × Nat) := do
  let (name, next) ← skipWhile? isTokenChar text pos
  let (_, next) ← skipWhile? isGap text next
  let sign ← peek? text next
  some (!name.isEmpty && sign == some '=', pos)

/-- The text is at its end when the cursor has passed all of its bytes. -/
theorem utf8Len_le_iff (h : rest? text pos = some rest) : utf8Len text ≤ pos ↔ rest = [] := by
  have hpos := add_utf8Len_of_rest? h
  rw [← String.utf8Len_eq_zero]
  omega

theorem payload?_eq (h : rest? text pos = some rest) : ∃ stop,
    payload? text pos = some ((takePayload rest).map Prod.fst, stop) ∧
      rest? text stop = some ((takePayload rest).elim rest Prod.snd) := by
  obtain ⟨mid, hbody, hmid⟩ := skipWhile?_eq isPayloadChar h
  obtain ⟨stop, hsigns, hstop⟩ := skipWhile?_eq (· == '=') hmid
  obtain ⟨next, hgap, hnext⟩ := skipWhile?_eq isGap hstop
  have hslice : slice? text pos stop = some (rest.takeWhile isPayloadChar ++
      (rest.dropWhile isPayloadChar).takeWhile (· == '=')) := by
    refine slice?_eq ?_ hstop
    rwa [List.append_assoc, List.takeWhile_append_dropWhile, List.takeWhile_append_dropWhile]
  have hends : (utf8Len text ≤ next ∨ (behindPayload rest).head? = some ',') ↔
      ((behindPayload rest).isEmpty || (behindPayload rest).head? == some ',') = true := by
    simp [utf8Len_le_iff hnext, behindPayload]
  have hpeek : peek? text next = some (behindPayload rest).head? := peek?_eq hnext
  rw [takePayload_eq]
  simp only [payload?, hbody, hsigns, hgap, hpeek, hslice, Option.bind_eq_bind, Option.bind_some]
  by_cases hnone : (rest.takeWhile isPayloadChar).isEmpty = true
  · exact ⟨pos, by simp [hnone], by simpa [hnone] using h⟩
  · by_cases hend : utf8Len text ≤ next ∨ (behindPayload rest).head? = some ','
    · refine ⟨next, ?_, ?_⟩ <;> rw [if_neg hnone, if_pos (hends.mp hend)]
      · rw [if_neg hnone, if_pos hend]
        rfl
      · exact hnext
    · refine ⟨pos, ?_, ?_⟩ <;> rw [if_neg hnone, if_neg fun he => hend (hends.mpr he)]
      · rw [if_neg hnone, if_neg hend]
        rfl
      · exact h

theorem param?_eq (h : rest? text pos = some rest) :
    param? text pos = some (startsParam rest, pos) := by
  obtain ⟨mid, hname, hmid⟩ := skipWhile?_eq isTokenChar h
  obtain ⟨next, hgap, hnext⟩ := skipWhile?_eq isGap hmid
  simp [param?, hname, hgap, peek?_eq hnext, startsParam]

/-! ## Values -/

def quoteTurn (text : List Char) (pos : Nat) : Option (Turn Char) := do
  let (c, pos) ← bump? text pos
  match c with
  | none | some '"' => some { again := false, pos }
  | some '\\' =>
    let (found, pos) ← bump? text pos
    some { found, again := true, pos }
  | some c => some { found := some c, again := true, pos }

theorem quoteTurn_nil (h : rest? text pos = some []) :
    quoteTurn text pos = some { again := false, pos } := by
  simp [quoteTurn, bump?, peek?_eq h]

theorem quoteTurn_quote (h : rest? text pos = some ('"' :: rest)) : ∃ stop,
    quoteTurn text pos = some { again := false, pos := stop } ∧ rest? text stop = some rest := by
  obtain ⟨stop, hbump, hstop⟩ := bump?_eq h
  exact ⟨stop, by simp [quoteTurn, hbump], hstop⟩

theorem quoteTurn_escape (h : rest? text pos = some ('\\' :: rest)) : ∃ stop,
    quoteTurn text pos = some { found := rest.head?, again := true, pos := stop } ∧
      rest? text stop = some rest.tail := by
  obtain ⟨next, hbump, hnext⟩ := bump?_eq h
  obtain ⟨stop, hbump', hstop⟩ := bump?_eq hnext
  exact ⟨stop, by simp [quoteTurn, hbump, hbump'], hstop⟩

theorem quoteTurn_plain (hq : c ≠ '"') (hb : c ≠ '\\') (h : rest? text pos = some (c :: rest)) :
    ∃ stop, quoteTurn text pos = some { found := some c, again := true, pos := stop } ∧
      rest? text stop = some rest := by
  obtain ⟨stop, hbump, hstop⟩ := bump?_eq h
  exact ⟨stop, by simp [quoteTurn, hbump], hstop⟩

theorem quoteTurn_sound (text : List Char) : Sound text (quoteTurn text) where
  nowhere pos h := by simp [quoteTurn, bump?, peek?_eq_none h]
  somewhere pos rest h := by
    cases rest with
    | nil => exact ⟨_, _, quoteTurn_nil h, h, List.suffix_refl _, nofun⟩
    | cons c rest =>
      by_cases hq : c = '"'
      · subst hq
        obtain ⟨stop, hturn, hstop⟩ := quoteTurn_quote h
        exact ⟨_, _, hturn, hstop, List.suffix_cons _ _, nofun⟩
      · by_cases hb : c = '\\'
        · subst hb
          obtain ⟨stop, hturn, hstop⟩ := quoteTurn_escape h
          have htail : rest.tail <:+ rest := List.tail_suffix rest
          exact ⟨_, _, hturn, hstop, htail.trans (List.suffix_cons _ _),
            fun _ => Nat.lt_succ_of_le htail.length_le⟩
        · obtain ⟨stop, hturn, hstop⟩ := quoteTurn_plain hq hb h
          exact ⟨_, _, hturn, hstop, List.suffix_cons _ _, fun _ => Nat.lt_succ_self _⟩

theorem sweep_quoteTurn (h : rest? text pos = some rest) : ∃ stop,
    sweep (quoteTurn text) (quoteTurn_sound text).forward pos = some ((takeQuoted rest).1, stop) ∧
      rest? text stop = some (takeQuoted rest).2 := by
  induction rest using takeQuoted.induct generalizing pos with
  | case1 => exact ⟨pos, by rw [sweep_eq _ (quoteTurn_nil h)]; rfl, h⟩
  | case2 rest =>
    obtain ⟨stop, hturn, hstop⟩ := quoteTurn_quote h
    exact ⟨stop, by rw [sweep_eq _ hturn]; rfl, hstop⟩
  | case3 =>
    -- the backslash is dropped, and the next turn finds the end
    obtain ⟨stop, hturn, hstop⟩ := quoteTurn_escape h
    refine ⟨stop, ?_, hstop⟩
    rw [sweep_eq _ hturn, if_pos rfl, sweep_eq _ (quoteTurn_nil hstop)]
    rfl
  | case4 c rest ih =>
    obtain ⟨next, hturn, hnext⟩ := quoteTurn_escape h
    obtain ⟨stop, hsweep, hstop⟩ := ih hnext
    refine ⟨stop, ?_, hstop⟩
    rw [sweep_eq _ hturn, if_pos rfl, hsweep]
    rfl
  | case5 c rest hquote hlast hescape ih =>
    have hb : c ≠ '\\' := by
      rintro rfl
      cases rest with
      | nil => exact hlast rfl rfl
      | cons d rest => exact hescape d rest rfl rfl
    obtain ⟨next, hturn, hnext⟩ := quoteTurn_plain hquote hb h
    obtain ⟨stop, hsweep, hstop⟩ := ih hnext
    rw [takeQuoted_plain hquote hb]
    refine ⟨stop, ?_, hstop⟩
    rw [sweep_eq _ hturn, if_pos rfl, hsweep]
    rfl

def value? (text : List Char) (pos : Nat) : Option (List Char × Nat) := do
  let sign ← peek? text pos
  if sign = some '"' then
    let (_, pos) ← bump? text pos
    sweep (quoteTurn text) (quoteTurn_sound text).forward pos
  else skipWhile? isBareChar text pos

theorem value?_eq (h : rest? text pos = some rest) : ∃ stop,
    value? text pos = some ((takeValue rest).1, stop) ∧ rest? text stop = some (takeValue rest).2 := by
  have hbare : rest.head? ≠ some '"' →
      takeValue rest = (rest.takeWhile isBareChar, rest.dropWhile isBareChar) := by
    intro hq
    cases rest with
    | nil => rfl
    | cons c rest => exact takeValue_plain (by simpa using hq) rest
  by_cases hq : rest.head? = some '"'
  · obtain ⟨more, rfl⟩ := List.head?_eq_some_iff.mp hq
    obtain ⟨next, hbump, hnext⟩ := bump?_eq h
    obtain ⟨stop, hsweep, hstop⟩ := sweep_quoteTurn hnext
    refine ⟨stop, ?_, hstop⟩
    simp only [value?, peek?_eq h, hbump, Option.bind_eq_bind, Option.bind_some, hq, if_true]
    exact hsweep
  · obtain ⟨stop, hskip, hstop⟩ := skipWhile?_eq isBareChar h
    rw [hbare hq]
    exact ⟨stop, by simp [value?, peek?_eq h, hq, hskip], hstop⟩

end BearerTokens.Challenge.Cursor
