import BearerTokens.Proofs.Challenge.Cursor

/-! # Every turn moves on

With a cursor the reader takes a turn for each parameter and a turn for each challenge, and between them it goes back
to a comma that turns out to begin another challenge.  Still no turn but the last leaves the cursor where it was, so
the reader comes to the end of the text.  It never looks within a character, and what it finds is what is read without
a cursor.
-/

namespace BearerTokens.Challenge

open Http (isTokenChar)
open String (utf8Len)

namespace Cursor

variable {α : Type} {text rest : List Char} {pos : Nat} {c : Char}

/-! ## Parameters -/

def separator? (text : List Char) (pos : Nat) : Option Nat := do
  let (_, pos) ← skipWhile? isGap text pos
  let sign ← peek? text pos
  if sign = some ',' then some pos
  else
    let (_, pos) ← skipWhile? (· != ',') text pos
    some pos

def pair? (text : List Char) (pos : Nat) : Option ((String × String) × Nat) := do
  let (name, pos) ← skipWhile? isTokenChar text pos
  let (_, pos) ← skipWhile? isGap text pos
  let (_, pos) ← bump? text pos
  let (_, pos) ← skipWhile? isGap text pos
  let (value, pos) ← value? text pos
  some ((.ofList name, .ofList value), pos)

/-- One parameter, if there is any.  If no further one follows, the cursor goes back to the comma. -/
def paramTurn (text : List Char) (pos : Nat) : Option (Turn (String × String)) := do
  let (_, pos) ← skipWhile? isGap text pos
  let (starts, pos) ← param? text pos
  if starts then
    let (found, pos) ← pair? text pos
    let separator ← separator? text pos
    let (_, next) ← skipWhile? isSeparator text separator
    let (again, next) ← param? text next
    some { found, again, pos := if again then next else separator }
  else some { again := false, pos }

theorem dropWhile_gap_comma (cs : List Char) :
    (cs.dropWhile isGap).dropWhile (· != ',') = cs.dropWhile (· != ',') := by
  induction cs with
  | nil => rfl
  | cons c cs ih =>
    cases hc : isGap c with
    | true =>
      have hcomma : (c != ',') = true := by rcases isGap_iff.mp hc with rfl | rfl <;> rfl
      rw [List.dropWhile_cons_of_pos hc, List.dropWhile_cons_of_pos (by exact hcomma), ih]
    | false => rw [List.dropWhile_cons_of_neg (Bool.eq_false_iff.mp hc)]

theorem separator?_eq (h : rest? text pos = some rest) : ∃ stop,
    separator? text pos = some stop ∧ rest? text stop = some (rest.dropWhile (· != ',')) := by
  obtain ⟨next, hgap, hnext⟩ := skipWhile?_eq isGap h
  have hsame := dropWhile_gap_comma rest
  by_cases hsign : (rest.dropWhile isGap).head? = some ','
  · obtain ⟨more, hmore⟩ := List.head?_eq_some_iff.mp hsign
    refine ⟨next, by simp [separator?, hgap, peek?_eq hnext, hsign], ?_⟩
    rw [← hsame, hmore]
    simpa [hmore] using hnext
  · obtain ⟨stop, hskip, hstop⟩ := skipWhile?_eq (· != ',') hnext
    exact ⟨stop, by simp [separator?, hgap, peek?_eq hnext, hsign, hskip], hsame ▸ hstop⟩

theorem pair?_eq (h : rest? text pos = some rest) : ∃ stop,
    pair? text pos = some ((takeParam rest).1, stop) ∧ rest? text stop = some (takeParam rest).2 := by
  obtain ⟨behind, hname, hbehind⟩ := skipWhile?_eq isTokenChar h
  obtain ⟨sign, hgap, hsign⟩ := skipWhile?_eq isGap hbehind
  obtain ⟨next, hbump, hnext⟩ := bump?_eq hsign
  obtain ⟨start, hgap', hstart⟩ := skipWhile?_eq isGap hnext
  obtain ⟨stop, hvalue, hstop⟩ := value?_eq hstart
  rw [← List.drop_one] at hvalue hstop
  exact ⟨stop, by simp only [pair?, hname, hgap, hbump, hgap', hvalue, Option.bind_eq_bind,
    Option.bind_some]; rfl, hstop⟩

theorem paramTurn_none (h : rest? text pos = some rest)
    (hs : startsParam (rest.dropWhile isGap) = false) : ∃ stop,
    paramTurn text pos = some { again := false, pos := stop } ∧
      rest? text stop = some (rest.dropWhile isGap) := by
  obtain ⟨start, hgap, hstart⟩ := skipWhile?_eq isGap h
  have hlook := param?_eq hstart
  exact ⟨start, by simp [paramTurn, hgap, hlook, hs], hstart⟩

theorem paramTurn_some (h : rest? text pos = some rest)
    (hs : startsParam (rest.dropWhile isGap) = true) : ∃ again stop,
    paramTurn text pos =
      some { found := (takeParam (rest.dropWhile isGap)).1, again, pos := stop } ∧
      again = startsParam (behindComma (takeParam (rest.dropWhile isGap)).2) ∧
      rest? text stop = some (if again then behindComma (takeParam (rest.dropWhile isGap)).2
        else (takeParam (rest.dropWhile isGap)).2.dropWhile (· != ',')) := by
  obtain ⟨start, hgap, hstart⟩ := skipWhile?_eq isGap h
  have hlook := param?_eq hstart
  rw [hs] at hlook
  obtain ⟨stop, hpair, hstop⟩ := pair?_eq hstart
  obtain ⟨separator, hcomma, hseparator⟩ := separator?_eq hstop
  obtain ⟨next, hblanks, hnext⟩ := skipWhile?_eq isSeparator hseparator
  have hmore : param? text next =
      some (startsParam (behindComma (takeParam (rest.dropWhile isGap)).2), next) := param?_eq hnext
  cases hagain : startsParam (behindComma (takeParam (rest.dropWhile isGap)).2) with
  | true =>
    exact ⟨true, next, by simp [paramTurn, hgap, hlook, hpair, hcomma, hblanks, hmore, hagain], rfl,
      hnext⟩
  | false =>
    exact ⟨false, separator, by simp [paramTurn, hgap, hlook, hpair, hcomma, hblanks, hmore, hagain], rfl,
      hseparator⟩

theorem takeParam_gap_suffix (cs : List Char) : (takeParam (cs.dropWhile isGap)).2 <:+ cs :=
  (takeParam_suffix _).trans (List.dropWhile_suffix _)

theorem behindComma_suffix (cs : List Char) : behindComma cs <:+ cs :=
  (List.dropWhile_suffix _).trans (List.dropWhile_suffix _)

/-- Behind a parameter and its separators there is less. -/
theorem length_behindComma_lt (hs : startsParam (rest.dropWhile isGap) = true) :
    (behindComma (takeParam (rest.dropWhile isGap)).2).length < rest.length :=
  Nat.lt_of_le_of_lt (behindComma_suffix _).length_le
    (Nat.lt_of_lt_of_le (length_takeParam_lt hs) (List.dropWhile_suffix _).length_le)

theorem paramTurn_sound (text : List Char) : Sound text (paramTurn text) where
  nowhere pos h := by simp [paramTurn, skipWhile?_eq_none isGap h]
  somewhere pos rest h := by
    cases hs : startsParam (rest.dropWhile isGap) with
    | false =>
      obtain ⟨stop, hturn, hstop⟩ := paramTurn_none h hs
      exact ⟨_, _, hturn, hstop, List.dropWhile_suffix _, nofun⟩
    | true =>
      obtain ⟨again, stop, hturn, -, hstop⟩ := paramTurn_some h hs
      have hparam := takeParam_gap_suffix rest
      cases again with
      | true =>
        exact ⟨_, _, hturn, hstop, (behindComma_suffix _).trans hparam,
          fun _ => length_behindComma_lt hs⟩
      | false => exact ⟨_, _, hturn, hstop, (List.dropWhile_suffix _).trans hparam, nofun⟩

theorem sweep_paramTurn (h : rest? text pos = some rest) : ∃ stop,
    sweep (paramTurn text) (paramTurn_sound text).forward pos = some ((takeParams rest).1, stop) ∧
      rest? text stop = some (takeParams rest).2 := by
  induction hlength : rest.length using Nat.strong_induction_on generalizing rest pos with
  | _ length ih =>
    rw [takeParams_eq]
    cases hs : startsParam (rest.dropWhile isGap) with
    | false =>
      obtain ⟨stop, hturn, hstop⟩ := paramTurn_none h hs
      exact ⟨stop, by rw [sweep_eq _ hturn]; rfl, hstop⟩
    | true =>
      obtain ⟨again, next, hturn, hagain, hnext⟩ := paramTurn_some h hs
      cases again with
      | false =>
        rw [if_pos rfl, takeMore, ← hagain]
        exact ⟨next, by rw [sweep_eq _ hturn]; rfl, hnext⟩
      | true =>
        obtain ⟨stop, hsweep, hstop⟩ := ih _ (hlength ▸ length_behindComma_lt hs) hnext rfl
        rw [if_pos rfl, takeMore, ← hagain]
        refine ⟨stop, ?_, hstop⟩
        rw [sweep_eq _ hturn, if_pos rfl, hsweep]
        rfl

/-! ## Challenges -/

def details? (scheme : String) (text : List Char) (pos : Nat) : Option (Challenge × Nat) := do
  let (_, pos) ← skipWhile? isGap text pos
  let (payload, pos) ← payload? text pos
  match payload with
  | some payload => some ({ scheme, payload := some (.ofList payload) }, pos)
  | none =>
    let (params, pos) ← sweep (paramTurn text) (paramTurn_sound text).forward pos
    some ({ scheme, params }, pos)

/-- One challenge, or a character that starts none, unless the text is at its end. -/
def challengeTurn (text : List Char) (pos : Nat) : Option (Turn Challenge) := do
  let (_, pos) ← skipWhile? isSeparator text pos
  if utf8Len text ≤ pos then some { again := false, pos }
  else
    let (scheme, stop) ← skipWhile? isTokenChar text pos
    if scheme.isEmpty then
      let (_, pos) ← bump? text stop
      some { again := true, pos }
    else
      let (found, pos) ← details? (.ofList scheme) text stop
      some { found, again := true, pos }

theorem details?_eq (scheme : String) (h : rest? text pos = some rest) : ∃ stop,
    details? scheme text pos = some ((takeDetails scheme rest).1, stop) ∧
      rest? text stop = some (takeDetails scheme rest).2 := by
  obtain ⟨start, hgap, hstart⟩ := skipWhile?_eq isGap h
  obtain ⟨next, hpayload, hnext⟩ := payload?_eq hstart
  rw [takeDetails_eq]
  cases hp : takePayload (rest.dropWhile isGap) with
  | some found =>
    obtain ⟨payload, after⟩ := found
    rw [hp] at hpayload hnext
    exact ⟨next, by simp [details?, hgap, hpayload], hnext⟩
  | none =>
    rw [hp] at hpayload hnext
    obtain ⟨stop, hsweep, hstop⟩ := sweep_paramTurn hnext
    exact ⟨stop, by simp [details?, hgap, hpayload, hsweep], hstop⟩

theorem challengeTurn_nil (h : rest? text pos = some rest) (hn : rest.dropWhile isSeparator = []) :
    ∃ stop, challengeTurn text pos = some { again := false, pos := stop } ∧
      rest? text stop = some [] := by
  obtain ⟨stop, hskip, hstop⟩ := skipWhile?_eq isSeparator h
  rw [hn] at hstop
  have hend : utf8Len text ≤ stop := (utf8Len_le_iff hstop).mpr rfl
  exact ⟨stop, by simp [challengeTurn, hskip, hend], hstop⟩

/-- Behind the separators the reader comes to a character, before the end of the text. -/
theorem separators_cons {cs : List Char} (h : rest? text pos = some rest)
    (hs : rest.dropWhile isSeparator = c :: cs) : ∃ start,
    skipWhile? isSeparator text pos = some (rest.takeWhile isSeparator, start) ∧
      rest? text start = some (c :: cs) ∧ ¬ utf8Len text ≤ start := by
  obtain ⟨start, hskip, hstart⟩ := skipWhile?_eq isSeparator h
  rw [hs] at hstart
  exact ⟨start, hskip, hstart, fun hle => nomatch (utf8Len_le_iff hstart).mp hle⟩

theorem challengeTurn_drop {cs : List Char} (h : rest? text pos = some rest)
    (hs : rest.dropWhile isSeparator = c :: cs) (hw : (c :: cs).takeWhile isTokenChar = []) :
    ∃ stop, challengeTurn text pos = some { again := true, pos := stop } ∧
      rest? text stop = some cs := by
  obtain ⟨start, hskip, hstart, hend⟩ := separators_cons h hs
  obtain ⟨behind, hword, hbehind⟩ := skipWhile?_eq isTokenChar hstart
  have hstay : (c :: cs).dropWhile isTokenChar = c :: cs := by
    have hsplit := List.takeWhile_append_dropWhile (p := isTokenChar) (l := c :: cs)
    rwa [hw, List.nil_append] at hsplit
  rw [hstay] at hbehind
  obtain ⟨stop, hbump, hstop⟩ := bump?_eq hbehind
  exact ⟨stop, by simp [challengeTurn, hskip, hend, hword, hw, hbump], hstop⟩

theorem challengeTurn_word {cs : List Char} (h : rest? text pos = some rest)
    (hs : rest.dropWhile isSeparator = c :: cs) (hw : (c :: cs).takeWhile isTokenChar ≠ []) :
    ∃ stop, challengeTurn text pos = some
        { found := (takeDetails (.ofList ((c :: cs).takeWhile isTokenChar))
            ((c :: cs).dropWhile isTokenChar)).1, again := true, pos := stop } ∧
      rest? text stop = some (takeDetails (.ofList ((c :: cs).takeWhile isTokenChar))
        ((c :: cs).dropWhile isTokenChar)).2 := by
  obtain ⟨start, hskip, hstart, hend⟩ := separators_cons h hs
  obtain ⟨behind, hword, hbehind⟩ := skipWhile?_eq isTokenChar hstart
  obtain ⟨stop, hdetails, hstop⟩ :=
    details?_eq (.ofList ((c :: cs).takeWhile isTokenChar)) hbehind
  exact ⟨stop, by simp [challengeTurn, hskip, hend, hword, hw, hdetails], hstop⟩

theorem takeDetails_suffix (scheme : String) (cs : List Char) : (takeDetails scheme cs).2 <:+ cs := by
  have hgap : cs.dropWhile isGap <:+ cs := List.dropWhile_suffix _
  rw [takeDetails_eq]
  split
  next payload rest h =>
    obtain ⟨-, -, rfl, -⟩ := takePayload_eq_some_iff.mp h
    exact (behindPayload_suffix _).trans hgap
  next => exact ((takeParams_suffix _).trans (List.dropWhile_suffix _)).trans hgap

/-- Behind a challenge there is less. -/
theorem takeDetails_word {cs : List Char} (hs : rest.dropWhile isSeparator = cs)
    (hw : cs.takeWhile isTokenChar ≠ []) (scheme : String) :
    (takeDetails scheme (cs.dropWhile isTokenChar)).2 <:+ rest ∧
      (takeDetails scheme (cs.dropWhile isTokenChar)).2.length < rest.length := by
  have hdetails := takeDetails_suffix scheme (cs.dropWhile isTokenChar)
  have hcs : cs <:+ rest := hs ▸ List.dropWhile_suffix _
  have hlt : (cs.dropWhile isTokenChar).length < cs.length :=
    length_dropWhile_lt (by simpa using hw)
  exact ⟨(hdetails.trans (List.dropWhile_suffix _)).trans hcs,
    Nat.lt_of_le_of_lt hdetails.length_le (Nat.lt_of_lt_of_le hlt hcs.length_le)⟩

theorem challengeTurn_sound (text : List Char) : Sound text (challengeTurn text) where
  nowhere pos h := by simp [challengeTurn, skipWhile?_eq_none isSeparator h]
  somewhere pos rest h := by
    cases hs : rest.dropWhile isSeparator with
    | nil =>
      obtain ⟨stop, hturn, hstop⟩ := challengeTurn_nil h hs
      exact ⟨_, _, hturn, hstop, List.nil_suffix, nofun⟩
    | cons c cs =>
      by_cases hw : (c :: cs).takeWhile isTokenChar = []
      · obtain ⟨stop, hturn, hstop⟩ := challengeTurn_drop h hs hw
        have hcs : c :: cs <:+ rest := hs ▸ List.dropWhile_suffix _
        exact ⟨_, _, hturn, hstop, (List.suffix_cons c cs).trans hcs, fun _ => hcs.length_le⟩
      · obtain ⟨stop, hturn, hstop⟩ := challengeTurn_word h hs hw
        obtain ⟨hsuffix, hlt⟩ := takeDetails_word hs hw (.ofList ((c :: cs).takeWhile isTokenChar))
        exact ⟨_, _, hturn, hstop, hsuffix, fun _ => hlt⟩

def challenges? (text : List Char) (pos : Nat) : Option (List Challenge × Nat) :=
  sweep (challengeTurn text) (challengeTurn_sound text).forward pos

theorem challenges?_eq (h : rest? text pos = some rest) :
    challenges? text pos = some (readChars rest, utf8Len text) := by
  induction hlength : rest.length using Nat.strong_induction_on generalizing rest pos with
  | _ length ih =>
    rw [readChars_eq, challenges?]
    cases hs : rest.dropWhile isSeparator with
    | nil =>
      obtain ⟨stop, hturn, hstop⟩ := challengeTurn_nil h hs
      have hend : stop = utf8Len text := by simpa using add_utf8Len_of_rest? hstop
      rw [sweep_eq _ hturn, hend]
      rfl
    | cons c cs =>
      by_cases hw : (c :: cs).takeWhile isTokenChar = []
      · obtain ⟨stop, hturn, hstop⟩ := challengeTurn_drop h hs hw
        have hcs : c :: cs <:+ rest := hs ▸ List.dropWhile_suffix _
        have hrest := ih cs.length (hlength ▸ hcs.length_le) hstop rfl
        rw [challenges?] at hrest
        rw [sweep_eq _ hturn, if_pos rfl, hrest]
        simp [hw]
      · obtain ⟨stop, hturn, hstop⟩ := challengeTurn_word h hs hw
        have hrest := ih _ (hlength ▸ (takeDetails_word hs hw _).2) hstop rfl
        rw [challenges?] at hrest
        rw [sweep_eq _ hturn, if_pos rfl, hrest]
        simp [hw]

/-! ## What a turn can rely on -/

def OnBoundary (text : List Char) (pos : Nat) : Prop := ∃ rest, rest? text pos = some rest

theorem OnBoundary.le (h : OnBoundary text pos) : pos ≤ utf8Len text := by
  obtain ⟨rest, h⟩ := h
  have hsum := add_utf8Len_of_rest? h
  omega

/-- A turn can be taken from every boundary, to a boundary that is no earlier, and a turn that is not the last moves
the cursor forward. -/
structure Advances (text : List Char) (turn : Nat → Option (Turn α)) : Prop where
  total (pos : Nat) : OnBoundary text pos → ∃ t, turn pos = some t ∧ OnBoundary text t.pos ∧
    pos ≤ t.pos ∧ t.pos ≤ utf8Len text
  forward (pos : Nat) (t : Turn α) : turn pos = some t → t.again = true → pos < t.pos

theorem Sound.advances {turn : Nat → Option (Turn α)} (hs : Sound text turn) :
    Advances text turn where
  total pos := by
    rintro ⟨rest, h⟩
    obtain ⟨t, rest', hturn, h', hsuffix, -⟩ := hs.somewhere pos rest h
    have hboundary : OnBoundary text t.pos := ⟨rest', h'⟩
    refine ⟨t, hturn, hboundary, ?_, hboundary.le⟩
    have hpos := add_utf8Len_of_rest? h
    have hstop := add_utf8Len_of_rest? h'
    have hless : utf8Len rest' ≤ utf8Len rest := String.utf8Len_le_of_suffix hsuffix
    omega
  forward pos t ht ha := (hs.forward pos t ht ha).1

/-- Where no payload is found the cursor has gone back. -/
theorem payload?_total (h : OnBoundary text pos) : ∃ payload stop,
    payload? text pos = some (payload, stop) ∧ OnBoundary text stop ∧
      (payload = none → stop = pos) := by
  obtain ⟨rest, h⟩ := h
  obtain ⟨stop, hpayload, hstop⟩ := payload?_eq h
  refine ⟨_, stop, hpayload, ⟨_, hstop⟩, fun hnone => ?_⟩
  rw [Option.map_eq_none_iff.mp hnone] at hstop
  have hsum := add_utf8Len_of_rest? h
  have hsum' := add_utf8Len_of_rest? hstop
  rw [Option.elim_none] at hsum'
  omega

/-- To look for a parameter the cursor always goes back. -/
theorem param?_total (h : OnBoundary text pos) : ∃ starts, param? text pos = some (starts, pos) := by
  obtain ⟨rest, h⟩ := h
  exact ⟨_, param?_eq h⟩

end Cursor

/-! ## How much can be found -/

theorem length_takeParams (cs : List Char) :
    (takeParams cs).1.length + (takeParams cs).2.length ≤ cs.length := by
  fun_induction takeParams cs with
  | case1 cs start h param separator next hn more ih =>
    have h1 := length_takeParam_lt h
    have h2 := length_dropWhile_le isGap cs
    have h3 := length_dropWhile_le (· != ',') (takeParam start).2
    have h4 := length_dropWhile_le isSeparator separator
    simp only [List.length_cons, start, param, separator, next, more] at *
    omega
  | case2 cs start h param separator next hn =>
    have h1 := length_takeParam_lt h
    have h2 := length_dropWhile_le isGap cs
    have h3 := length_dropWhile_le (· != ',') (takeParam start).2
    simp only [List.length_singleton, start, param, separator] at *
    omega
  | case3 cs start h => simpa using length_dropWhile_le isGap cs

theorem length_takeDetails (scheme : String) (cs : List Char) :
    (takeDetails scheme cs).1.params.length + (takeDetails scheme cs).2.length ≤ cs.length := by
  have hgap := length_dropWhile_le isGap cs
  rw [takeDetails_eq]
  split
  next h => simpa using Nat.le_trans (length_takePayload_le h) hgap
  next => exact Nat.le_trans (length_takeParams _) hgap

/-- Each challenge and each parameter takes a character of its own. -/
theorem length_readChars (cs : List Char) :
    (readChars cs).length + ((readChars cs).flatMap (·.params)).length ≤ cs.length := by
  fun_induction readChars cs with
  | case1 => simp
  | case2 cs c rest hs hw ih =>
    have h1 := length_dropWhile_le isSeparator cs
    rw [hs, List.length_cons] at h1
    omega
  | case3 cs c rest hs hw scheme read ih =>
    have h1 := length_dropWhile_le isSeparator cs
    have h2 := length_dropWhile_lt (Bool.eq_false_iff.mpr hw)
    have h3 := length_takeDetails scheme ((c :: rest).dropWhile isTokenChar)
    rw [hs] at h1
    simp only [List.length_cons, List.flatMap_cons, List.length_append, read] at *
    omega

/-- Read with a cursor, every header comes to its end, and what is found is what is read without one.  Each turn of a
loop starts and ends between characters, and moves the cursor forward unless it is the last.  Looking ahead ends
between characters too, and goes back to where it started.  There are no more challenges and parameters than
characters. -/
theorem read_advances (header : String) :
    Cursor.challenges? header.toList 0 = some (read header, header.utf8ByteSize) ∧
    Cursor.Advances header.toList (Cursor.challengeTurn header.toList) ∧
    Cursor.Advances header.toList (Cursor.paramTurn header.toList) ∧
    Cursor.Advances header.toList (Cursor.quoteTurn header.toList) ∧
    (∀ p, Cursor.Advances header.toList (Cursor.skipTurn p header.toList)) ∧
    (∀ pos, Cursor.OnBoundary header.toList pos → ∃ payload stop,
      Cursor.payload? header.toList pos = some (payload, stop) ∧
        Cursor.OnBoundary header.toList stop ∧ (payload = none → stop = pos)) ∧
    (∀ pos, Cursor.OnBoundary header.toList pos → ∃ starts,
      Cursor.param? header.toList pos = some (starts, pos)) ∧
    (read header).length + ((read header).flatMap (·.params)).length ≤ header.length := by
  refine ⟨?_, (Cursor.challengeTurn_sound _).advances, (Cursor.paramTurn_sound _).advances,
    (Cursor.quoteTurn_sound _).advances, fun p => (Cursor.skipTurn_sound p _).advances,
    fun _ => Cursor.payload?_total, fun _ => Cursor.param?_total, ?_⟩
  · rw [Cursor.challenges?_eq (Cursor.rest?_start _), String.utf8Len_toList]
    rfl
  · rw [← String.length_toList]
    exact length_readChars header.toList

end BearerTokens.Challenge
