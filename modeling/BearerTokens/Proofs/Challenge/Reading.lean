import BearerTokens.Proofs.Challenge.Grammar
import Mathlib.Data.List.TakeWhile

/-! # Reading what is written

Each reader takes from a text just the part that stands for its value and leaves the rest.  What may
follow such a part matters: a word goes on up to the first character that cannot belong to it, a challenge
up to its comma, and the parameters of a challenge up to the first comma behind which no parameter stands.
-/

namespace BearerTokens.Challenge

open Http (isTokenChar)

/-! ## Runs of characters -/

def Stops (p : Char → Bool) (rest : List Char) : Prop := ∀ c ∈ rest.head?, p c = false

section Runs

variable {p : Char → Bool} {run rest : List Char}

theorem stops_nil (p : Char → Bool) : Stops p [] := by
  simp [Stops]

theorem stops_cons {c : Char} : Stops p (c :: rest) ↔ p c = false := by
  simp [Stops]

theorem Stops.append (hs : Stops p run) (hne : run ≠ []) : Stops p (run ++ rest) := by
  cases run with
  | nil => exact absurd rfl hne
  | cons c run => exact stops_cons.mpr (stops_cons.mp hs)

/-- Behind characters of another class the text stops where they do, or where the rest does. -/
theorem stops_append (hrun : ∀ c ∈ run, p c = false) (hs : Stops p rest) : Stops p (run ++ rest) := by
  cases run with
  | nil => exact hs
  | cons c run => exact stops_cons.mpr (hrun c List.mem_cons_self)

theorem Ends.stops (he : Ends rest) (hp : p ',' = false) : Stops p rest := by
  intro c hc
  rw [he c hc]
  exact hp

theorem Stops.dropWhile_eq (hs : Stops p rest) : rest.dropWhile p = rest := by
  cases rest with
  | nil => rfl
  | cons c rest => simp [stops_cons.mp hs]

theorem Stops.takeWhile_eq (hs : Stops p rest) : rest.takeWhile p = [] := by
  cases rest with
  | nil => rfl
  | cons c rest => simp [stops_cons.mp hs]

theorem dropWhile_run (hrun : ∀ c ∈ run, p c = true) (hs : Stops p rest) :
    (run ++ rest).dropWhile p = rest := by
  rw [List.dropWhile_append_of_pos hrun, hs.dropWhile_eq]

theorem dropWhile_all (hrun : ∀ c ∈ run, p c = true) : run.dropWhile p = [] := by
  have h := dropWhile_run hrun (stops_nil p)
  rwa [List.append_nil] at h

theorem takeWhile_run (hrun : ∀ c ∈ run, p c = true) (hs : Stops p rest) :
    (run ++ rest).takeWhile p = run := by
  rw [List.takeWhile_append_of_pos hrun, hs.takeWhile_eq, List.append_nil]

theorem bne_of_not_mem {sign : Char} (h : sign ∉ run) : ∀ c ∈ run, (c != sign) = true := by
  intro c hc
  rw [bne_iff_ne]
  rintro rfl
  exact h hc

end Runs

/-! ## Classes of characters -/

theorem isGap_iff {c : Char} : isGap c = true ↔ c = ' ' ∨ c = '\t' := by
  simp [isGap]

theorem isSeparator_of_isGap {c : Char} (hc : isGap c = true) : isSeparator c = true := by
  rcases isGap_iff.mp hc with rfl | rfl <;> decide

theorem isSeparator_of_isAsciiBlank {c : Char} (hc : Text.isAsciiBlank c = true) :
    isSeparator c = true := by
  simp [isSeparator, hc]

theorem isSeparator_cases {c : Char} (hc : isSeparator c = true) :
    c = ',' ∨ c = ' ' ∨ c = '\t' ∨ c = '\n' ∨ c = '\x0c' ∨ c = '\r' := by
  simpa [isSeparator, Text.isAsciiBlank, or_assoc] using hc

/-- A separator belongs neither to words nor to payloads. -/
theorem not_in_words {c : Char} (hc : isSeparator c = true) :
    isTokenChar c = false ∧ isPayloadChar c = false := by
  rcases isSeparator_cases hc with rfl | rfl | rfl | rfl | rfl | rfl <;> decide

theorem not_isSeparator {c : Char} (hc : isTokenChar c = true) : isSeparator c = false := by
  cases hs : isSeparator c with
  | false => rfl
  | true => exact absurd hc (Bool.eq_false_iff.mp (not_in_words hs).1)

theorem not_isGap {c : Char} (hc : isTokenChar c = true) : isGap c = false := by
  cases hg : isGap c with
  | false => rfl
  | true => exact absurd (isSeparator_of_isGap hg) (Bool.eq_false_iff.mp (not_isSeparator hc))

theorem not_isGap_of_isPayloadChar {c : Char} (hc : isPayloadChar c = true) : isGap c = false := by
  cases hg : isGap c with
  | false => rfl
  | true =>
    have hnot := (not_in_words (isSeparator_of_isGap hg)).2
    exact absurd hc (Bool.eq_false_iff.mp hnot)

theorem ne_of_isTokenChar {c d : Char} (hc : isTokenChar c = true) (hd : isTokenChar d = false) :
    c ≠ d := by
  rintro rfl
  rw [hd] at hc
  cases hc

/-- A value is bare up to a comma or a blank. -/
theorem isBareChar_of_isSeparator {c : Char} (hc : isSeparator c = true) : isBareChar c = false := by
  rcases isSeparator_cases hc with rfl | rfl | rfl | rfl | rfl | rfl <;> decide

theorem isBareChar_of_isTokenChar {c : Char} (hc : isTokenChar c = true) : isBareChar c = true := by
  have hnot : isSeparator c = false := not_isSeparator hc
  simp only [isSeparator, Bool.or_eq_false_iff, beq_eq_false_iff_ne] at hnot
  simp [isBareChar, hnot.1, hnot.2]

theorem Word.stops {p : Char → Bool} {word rest : List Char} (hw : Word word)
    (hp : ∀ c, isTokenChar c = true → p c = false) : Stops p (word ++ rest) :=
  Stops.append (fun c hc => hp c (hw.2 c (List.mem_of_mem_head? hc))) hw.1

/-! ## Values -/

theorem takeQuoted_quotes {value text : List Char} (h : Quotes value text) (rest : List Char) :
    takeQuoted (text ++ '"' :: rest) = (value, rest) := by
  induction h with
  | nil => rfl
  | plain _ hb _ ih => simp [takeQuoted, hb, ih]
  | escaped _ ih => simp [takeQuoted, ih]

variable {value : List Char} {text rest : List Char}

/-- A written value starts with a quote or a token character. -/
theorem WritesValue.stops {p : Char → Bool} (h : WritesValue value text) (hq : p '"' = false)
    (hp : ∀ c, isTokenChar c = true → p c = false) : Stops p (text ++ rest) := by
  cases h with
  | quoted => exact stops_cons.mpr hq
  | bare hw => exact hw.stops hp

theorem WritesValue.start (h : WritesValue value text) : ∃ c more, text = c :: more ∧ c ≠ ',' := by
  cases h with
  | quoted => exact ⟨'"', _, rfl, by decide⟩
  | bare hw =>
    cases value with
    | nil => exact absurd rfl hw.1
    | cons c more =>
      exact ⟨c, more, rfl, ne_of_isTokenChar (hw.2 c List.mem_cons_self) (by decide)⟩

theorem takeValue_writes (h : WritesValue value text) (hs : Stops isBareChar rest) :
    takeValue (text ++ rest) = (value, rest) := by
  cases h with
  | @quoted inner h =>
    have htext : '"' :: (inner ++ ['"']) ++ rest = '"' :: (inner ++ '"' :: rest) := by simp
    rw [htext, takeValue]
    exact takeQuoted_quotes h rest
  | bare hw =>
    have hbare : ∀ c ∈ value, isBareChar c = true := fun c hc => isBareChar_of_isTokenChar (hw.2 c hc)
    have htaken : takeValue (value ++ rest) =
        ((value ++ rest).takeWhile isBareChar, (value ++ rest).dropWhile isBareChar) := by
      unfold takeValue
      split
      next hquote =>
        -- a word does not start with a quote
        cases value with
        | nil => exact absurd rfl hw.1
        | cons c value =>
          obtain ⟨rfl, -⟩ : c = '"' ∧ _ := by simpa using hquote
          exact absurd (hw.2 '"' List.mem_cons_self) (by decide)
      next => rfl
    rw [htaken, takeWhile_run hbare hs, dropWhile_run hbare hs]

/-! ## Parameters -/

variable {param : String × String} {params : List (String × String)}

/-- Behind a name come a gap and `=`. -/
theorem stops_afterName {before : List Char} (hb : Gap before) (more : List Char) :
    Stops isTokenChar (before ++ '=' :: more) := by
  have hgap : ∀ c ∈ before, isTokenChar c = false :=
    fun c hc => (not_in_words (isSeparator_of_isGap (hb c hc))).1
  exact stops_append hgap (stops_cons.mpr (by decide))

theorem startsParam_writes (h : WritesParam param text) : startsParam (text ++ rest) = true := by
  obtain @⟨name, value, before, after, vtext, hn, hb, ha, hv⟩ := h
  have hstop := stops_afterName hb (after ++ vtext ++ rest)
  have htext : name.toList ++ (before ++ '=' :: (after ++ vtext)) ++ rest =
      name.toList ++ (before ++ '=' :: (after ++ vtext ++ rest)) := by simp
  have hequals : Stops isGap ('=' :: (after ++ vtext ++ rest)) := stops_cons.mpr (by decide)
  rw [htext, startsParam, takeWhile_run hn.2 hstop, dropWhile_run hn.2 hstop,
    dropWhile_run hb hequals]
  simp [hn.1]

theorem takeParam_writes (h : WritesParam param text) (hs : Stops isBareChar rest) :
    takeParam (text ++ rest) = (param, rest) := by
  obtain @⟨name, value, before, after, vtext, hn, hb, ha, hv⟩ := h
  have hstop := stops_afterName hb (after ++ (vtext ++ rest))
  have htext : name.toList ++ (before ++ '=' :: (after ++ vtext)) ++ rest =
      name.toList ++ (before ++ '=' :: (after ++ (vtext ++ rest))) := by simp
  have hequals : Stops isGap ('=' :: (after ++ (vtext ++ rest))) := stops_cons.mpr (by decide)
  have hvalue : Stops isGap (vtext ++ rest) := hv.stops (by decide) fun _ => not_isGap
  simp only [htext, takeParam, takeWhile_run hn.2 hstop, dropWhile_run hn.2 hstop,
    dropWhile_run hb hequals, List.drop_one, List.tail_cons, dropWhile_run ha hvalue,
    takeValue_writes hv hs, String.ofList_toList]

/-- A list of parameters starts with its first one. -/
theorem WritesParams.first (h : WritesParams params text) :
    ∃ param start more, WritesParam param start ∧ text = start ++ more := by
  cases h with
  | one h => exact ⟨_, text, [], h, (List.append_nil _).symm⟩
  | cons h => exact ⟨_, _, _, h, rfl⟩

theorem WritesParams.startsParam (h : WritesParams params text) :
    startsParam (text ++ rest) = true := by
  obtain ⟨param, start, more, hfirst, rfl⟩ := h.first
  rw [List.append_assoc]
  exact startsParam_writes hfirst

theorem WritesParam.stops {p : Char → Bool} (h : WritesParam param text)
    (hp : ∀ c, isTokenChar c = true → p c = false) : Stops p (text ++ rest) := by
  obtain ⟨hn, -, -, -⟩ := h
  rw [List.append_assoc]
  exact hn.stops hp

theorem WritesParams.stops {p : Char → Bool} (h : WritesParams params text)
    (hp : ∀ c, isTokenChar c = true → p c = false) : Stops p (text ++ rest) := by
  obtain ⟨param, start, more, hfirst, rfl⟩ := h.first
  rw [List.append_assoc]
  exact hfirst.stops hp

theorem isSeparator_pad {pad : List Char} (hp : Blanks pad) : Separators pad :=
  fun c hc => isSeparator_of_isAsciiBlank (hp c hc)

/-- Up to its comma there are but blanks behind a part that is over. -/
theorem dropWhile_pad {pad : List Char} (hp : Blanks pad) (he : Ends rest) :
    (pad ++ rest).dropWhile (· != ',') = rest := by
  have hblank : ∀ c ∈ pad, (c != ',') = true := by
    intro c hc
    have hb := hp c hc
    rw [bne_iff_ne]
    rintro rfl
    exact absurd hb (by decide)
  exact dropWhile_run hblank (he.stops (by decide))

theorem stops_pad {p : Char → Bool} {pad : List Char} (hp : Separators pad) (he : Ends rest)
    (hs : ∀ c, isSeparator c = true → p c = false) : Stops p (pad ++ rest) :=
  stops_append (fun c hc => hs c (hp c hc)) (he.stops (hs ',' (by decide)))

/-- One parameter is read, and more of them if behind its comma one stands. -/
theorem takeParams_param {pad : List Char} (h : WritesParam param text) (hp : Blanks pad)
    (he : Ends rest) : takeParams (text ++ (pad ++ rest)) =
      if startsParam (rest.dropWhile isSeparator) = true then
        (param :: (takeParams (rest.dropWhile isSeparator)).1,
          (takeParams (rest.dropWhile isSeparator)).2)
      else ([param], rest) := by
  have hstart : (text ++ (pad ++ rest)).dropWhile isGap = text ++ (pad ++ rest) :=
    (h.stops fun _ => not_isGap).dropWhile_eq
  have hparam : takeParam (text ++ (pad ++ rest)) = (param, pad ++ rest) :=
    takeParam_writes h (stops_pad (isSeparator_pad hp) he fun _ => isBareChar_of_isSeparator)
  rw [takeParams]
  simp only [hstart, startsParam_writes h, hparam, dropWhile_pad hp he]
  rfl

/-- The parameters of a challenge are read up to its end, if no parameter stands behind it. -/
theorem takeParams_writes {pad : List Char} (h : WritesParams params text) (hp : Blanks pad)
    (he : Ends rest) (hn : startsParam (rest.dropWhile isSeparator) = false) :
    takeParams (text ++ (pad ++ rest)) = (params, rest) := by
  induction h with
  | one h =>
    rw [takeParams_param h hp he, hn]
    rfl
  | @cons param params text pad' between more h hp' hs hr ih =>
    have htext : text ++ (pad' ++ ',' :: (between ++ more)) ++ (pad ++ rest) =
        text ++ (pad' ++ ',' :: (between ++ (more ++ (pad ++ rest)))) := by simp
    have hcomma : Separators (',' :: between) := by
      intro c hc
      rcases List.mem_cons.mp hc with rfl | hc
      · decide
      · exact hs c hc
    have hnext : (',' :: between ++ (more ++ (pad ++ rest))).dropWhile isSeparator =
        more ++ (pad ++ rest) := dropWhile_run hcomma (hr.stops fun _ => not_isSeparator)
    rw [htext, takeParams_param h hp' (ends_cons _), ← List.cons_append, hnext,
      if_pos hr.startsParam, ih]

/-! ## Payloads -/

theorem Payload.stops {p : Char → Bool} {payload : List Char} (h : Payload payload)
    (hp : ∀ c, isPayloadChar c = true → p c = false) : Stops p (payload ++ rest) := by
  obtain @⟨body, closing, hne, hb, -⟩ := h
  rw [List.append_assoc]
  exact Stops.append (fun c hc => hp c (hb c (List.mem_of_mem_head? hc))) hne

/-- A payload goes on up to the pad behind it. -/
theorem Payload.runs {payload pad : List Char} (h : Payload payload) (hp : Separators pad)
    (he : Ends rest) : ∃ body closing, body ≠ [] ∧ payload = body ++ closing ∧
      (payload ++ (pad ++ rest)).takeWhile isPayloadChar = body ∧
      (payload ++ (pad ++ rest)).dropWhile isPayloadChar = closing ++ (pad ++ rest) ∧
      (closing ++ (pad ++ rest)).takeWhile (· == '=') = closing ∧
      (closing ++ (pad ++ rest)).dropWhile (· == '=') = pad ++ rest := by
  obtain @⟨body, closing, hne, hb, hc⟩ := h
  have hsigns : ∀ c ∈ closing, (c == '=') = true := fun c hc' => beq_iff_eq.mpr (hc c hc')
  have hbody : Stops isPayloadChar (closing ++ (pad ++ rest)) := by
    refine stops_append (fun c hc' => ?_) (stops_pad hp he fun _ hs => (not_in_words hs).2)
    rw [hc c hc']
    decide
  have hclosing : Stops (· == '=') (pad ++ rest) := by
    refine stops_pad hp he fun c hs => ?_
    rcases isSeparator_cases hs with rfl | rfl | rfl | rfl | rfl | rfl <;> decide
  refine ⟨body, closing, hne, rfl, ?_, ?_, takeWhile_run hsigns hclosing, dropWhile_run hsigns hclosing⟩
  · rw [List.append_assoc, takeWhile_run hb hbody]
  · rw [List.append_assoc, dropWhile_run hb hbody]

theorem takePayload_payload {payload pad : List Char} (h : Payload payload) (hp : Gap pad)
    (he : Ends rest) : takePayload (payload ++ (pad ++ rest)) = some (payload, rest) := by
  obtain ⟨body, closing, hne, rfl, hbody, hafter, hclosing, hbehind⟩ :=
    h.runs (isSeparator_pad hp.blanks) he
  have hgap : Stops isGap rest := he.stops (by decide)
  have hrest : (rest.isEmpty || rest.head? == some ',') = true := by
    cases rest with
    | nil => rfl
    | cons c rest => simp [he c rfl]
  simp only [takePayload, hbody, hafter, hclosing, hbehind, dropWhile_run hp hgap, hrest]
  simp [hne]

theorem takePayload_eq_none {cs : List Char} {c : Char} (hc : c ≠ ',')
    (h : (((cs.dropWhile isPayloadChar).dropWhile (· == '=')).dropWhile isGap).head? = some c) :
    takePayload cs = none := by
  have hsome : (((cs.dropWhile isPayloadChar).dropWhile (· == '=')).dropWhile isGap).isEmpty =
      false := by
    cases hcs : ((cs.dropWhile isPayloadChar).dropWhile (· == '=')).dropWhile isGap with
    | nil => simp [hcs] at h
    | cons => rfl
  simp [takePayload, hsome, h, hc]

/-- Behind a payload are but spaces and tabs up to its comma, no other blanks. -/
theorem takePayload_not_gap {payload pad : List Char} (h : Payload payload) (hb : Blanks pad)
    (hg : ¬ Gap pad) (he : Ends rest) : takePayload (payload ++ (pad ++ rest)) = none := by
  obtain ⟨body, closing, -, -, -, hafter, -, hbehind⟩ := h.runs (isSeparator_pad hb) he
  obtain ⟨c, more, hpad⟩ : ∃ c more, pad.dropWhile isGap = c :: more := by
    refine List.exists_cons_of_ne_nil fun hnone => hg ?_
    exact List.dropWhile_eq_nil_iff.1 hnone
  have hc : c ≠ ',' := by
    have hblank := hb c ((List.dropWhile_suffix isGap).subset (hpad ▸ List.mem_cons_self))
    rintro rfl
    exact absurd hblank (by decide)
  refine takePayload_eq_none hc ?_
  rw [hafter, hbehind, List.dropWhile_append, hpad]
  rfl

/-- A name with a character of its own is no payload. -/
theorem takePayload_name {name behind : List Char} (hn : Word name)
    (hc : name.dropWhile isPayloadChar ≠ []) : takePayload (name ++ behind) = none := by
  obtain ⟨c, more, hname⟩ := List.exists_cons_of_ne_nil hc
  have hown : isTokenChar c = true := by
    refine hn.2 c ((List.dropWhile_suffix isPayloadChar).subset ?_)
    rw [hname]
    exact List.mem_cons_self
  have hequals : c ≠ '=' := ne_of_isTokenChar hown (by decide)
  have hdrop : (name ++ behind).dropWhile isPayloadChar = c :: (more ++ behind) := by
    simp [List.dropWhile_append, hname]
  refine takePayload_eq_none (ne_of_isTokenChar hown (by decide)) ?_
  rw [hdrop]
  simp [hequals, not_isGap hown]

/-- A parameter is no payload: behind the payload characters at its start stands a character that cannot
follow a payload. -/
theorem takePayload_param (h : WritesParam param text) : takePayload (text ++ rest) = none := by
  obtain @⟨name, value, before, after, vtext, hn, hb, ha, hv⟩ := h
  obtain ⟨behind, hbehind⟩ : ∃ behind, behind = before ++ '=' :: (after ++ (vtext ++ rest)) :=
    ⟨_, rfl⟩
  have htext : name.toList ++ (before ++ '=' :: (after ++ vtext)) ++ rest = name.toList ++ behind := by
    simp [hbehind]
  rw [htext]
  by_cases hname : name.toList.dropWhile isPayloadChar = []
  case neg => exact takePayload_name hn hname
  have hdrop : (name.toList ++ behind).dropWhile isPayloadChar = behind := by
    have hstop : Stops isPayloadChar behind := by
      rw [hbehind]
      refine stops_append (fun c hc => ?_) (stops_cons.mpr (by decide))
      exact (not_in_words (isSeparator_of_isGap (hb c hc))).2
    simp [List.dropWhile_append, hname, hstop.dropWhile_eq]
  cases before with
  | cons b before =>
    -- behind a gap the sign is left
    have hequals : Stops (· == '=') behind := by
      rw [hbehind]
      refine stops_cons.mpr (beq_eq_false_iff_ne.mpr ?_)
      rintro rfl
      exact absurd (hb '=' List.mem_cons_self) (by decide)
    have hsign : Stops isGap ('=' :: (after ++ (vtext ++ rest))) := stops_cons.mpr (by decide)
    refine takePayload_eq_none (c := '=') (by decide) ?_
    rw [hdrop, hequals.dropWhile_eq, hbehind, dropWhile_run hb hsign]
    rfl
  | nil =>
    -- the sign may close a payload, but no comma follows it
    have hvalue : Stops (· == '=') (after ++ (vtext ++ rest)) := by
      refine stops_append (fun c hc => ?_) (hv.stops (by decide) fun c hc => ?_)
      · rcases isGap_iff.mp (ha c hc) with rfl | rfl <;> decide
      · exact beq_eq_false_iff_ne.mpr (ne_of_isTokenChar hc (by decide))
    have hgap : Stops isGap (vtext ++ rest) := hv.stops (by decide) fun _ => not_isGap
    obtain ⟨c, more, rfl, hc⟩ := hv.start
    refine takePayload_eq_none hc ?_
    have hone : ∀ d ∈ ['='], (d == '=') = true := by simp
    have hsign : behind.dropWhile (· == '=') = after ++ (c :: more ++ rest) :=
      hbehind ▸ dropWhile_run hone hvalue
    rw [hdrop, hsign, dropWhile_run ha hgap]
    rfl

/-! ## Challenges -/

/-- Without its gap a pad is still a pad. -/
theorem exists_pad {pad : List Char} (hp : Separators pad) (he : Ends rest) :
    ∃ pad', Separators pad' ∧ (pad ++ rest).dropWhile isGap = pad' ++ rest := by
  have hgap : Stops isGap rest := he.stops (by decide)
  refine ⟨pad.dropWhile isGap, fun c hc => ?_, ?_⟩
  · exact hp c ((List.dropWhile_suffix isGap).subset hc)
  · rw [List.dropWhile_append, hgap.dropWhile_eq]
    cases pad.dropWhile isGap <;> rfl

theorem stops_gap {gap : List Char} (hg : Gap gap) (hne : gap ≠ []) :
    Stops isTokenChar (gap ++ rest) := by
  have hgap : Stops isTokenChar gap := by
    intro c hc
    exact (not_in_words (isSeparator_of_isGap (hg c (List.mem_of_mem_head? hc)))).1
  exact hgap.append hne

theorem takeParams_pad {pad : List Char} (hp : Separators pad) (he : Ends rest) :
    ∃ pad', Separators pad' ∧ takeParams (pad ++ rest) = ([], pad' ++ rest) := by
  obtain ⟨pad', hp', hdrop⟩ := exists_pad hp he
  have hword : Stops isTokenChar (pad' ++ rest) :=
    stops_pad hp' he fun _ hc => (not_in_words hc).1
  have hnone : startsParam (pad' ++ rest) = false := by
    simp [startsParam, hword.takeWhile_eq]
  refine ⟨pad', hp', ?_⟩
  rw [takeParams]
  simp [hdrop, hnone]

/-- Behind its scheme a challenge is read as it is written, and at most separators are left of it. -/
theorem takeDetails_writes {c : Challenge} {pad : List Char} (h : WritesChallenge c text)
    (hp : Pads c pad) (he : Ends rest) (hn : startsParam (rest.dropWhile isSeparator) = false) :
    ∃ tail left, text ++ (pad ++ rest) = c.scheme.toList ++ tail ∧ Word c.scheme.toList ∧
      Stops isTokenChar tail ∧ Separators left ∧ takeDetails c.scheme tail = (c, left ++ rest) := by
  have hnone : Separators [] := by simp [Separators]
  have hsep := isSeparator_pad hp.1
  cases h with
  | @alone scheme hs =>
    obtain ⟨pad', hp', hdrop⟩ := exists_pad hsep he
    obtain ⟨left, hleft, hparams⟩ := takeParams_pad hp' he
    have hword : Stops isTokenChar (pad ++ rest) :=
      stops_pad hsep he fun _ hc => (not_in_words hc).1
    have hchars : Stops isPayloadChar (pad' ++ rest) :=
      stops_pad hp' he fun _ hc => (not_in_words hc).2
    have hpayload : takePayload (pad' ++ rest) = none := by
      simp [takePayload, hchars.takeWhile_eq]
    refine ⟨pad ++ rest, left, rfl, hs, hword, hleft, ?_⟩
    simp only [takeDetails, hdrop, hpayload, hparams]
  | @payload scheme payload gap hs hne hg h =>
    have hstart : Stops isGap (payload.toList ++ (pad ++ rest)) :=
      h.stops fun _ => not_isGap_of_isPayloadChar
    have hgap : Gap pad := hp.2 (Option.some_ne_none payload)
    refine ⟨gap ++ (payload.toList ++ (pad ++ rest)), [], by simp, hs, stops_gap hg hne, hnone, ?_⟩
    simp only [takeDetails, dropWhile_run hg hstart, takePayload_payload h hgap he,
      String.ofList_toList, List.nil_append]
  | @params scheme params gap text hs hne hg h =>
    have hstart : Stops isGap (text ++ (pad ++ rest)) := h.stops fun _ => not_isGap
    have hpayload : takePayload (text ++ (pad ++ rest)) = none := by
      obtain ⟨param, start, more, hfirst, rfl⟩ := h.first
      rw [List.append_assoc]
      exact takePayload_param hfirst
    refine ⟨gap ++ (text ++ (pad ++ rest)), [], by simp, hs, stops_gap hg hne, hnone, ?_⟩
    simp only [takeDetails, dropWhile_run hg hstart, hpayload, takeParams_writes h hp.1 he hn,
      List.nil_append]

/-- A payload is taken for something else if behind it stands a blank that is no space or tab. -/
theorem takeDetails_not_pads {c : Challenge} {pad : List Char} (h : WritesChallenge c text)
    (hb : Blanks pad) (hp : ¬ Pads c pad) (he : Ends rest) :
    ∃ tail, text ++ (pad ++ rest) = c.scheme.toList ++ tail ∧ Word c.scheme.toList ∧
      Stops isTokenChar tail ∧ (takeDetails c.scheme tail).1 ≠ c := by
  cases h with
  | alone | params => exact absurd ⟨hb, fun hn => absurd rfl hn⟩ hp
  | @payload scheme payload gap hs hne hg h =>
    have hgap : ¬ Gap pad := fun hgap => hp (hgap.pads _)
    have hstart : Stops isGap (payload.toList ++ (pad ++ rest)) :=
      h.stops fun _ => not_isGap_of_isPayloadChar
    refine ⟨gap ++ (payload.toList ++ (pad ++ rest)), by simp, hs, stops_gap hg hne, fun hc => ?_⟩
    simp only [takeDetails, dropWhile_run hg hstart, takePayload_not_gap h hb hgap he] at hc
    cases congrArg Challenge.payload hc

theorem startsParam_word {scheme tail : List Char} (hs : Word scheme) (ht : Stops isTokenChar tail)
    (he : Stops (· == '=') (tail.dropWhile isGap)) : startsParam (scheme ++ tail) = false := by
  rw [startsParam, takeWhile_run hs.2 ht, dropWhile_run hs.2 ht]
  cases hd : tail.dropWhile isGap with
  | nil => simp
  | cons c more =>
    rw [hd] at he
    simpa [hs.1] using stops_cons.mp he

/-- A challenge does not look like a parameter: no `=` stands behind its scheme. -/
theorem WritesChallenge.not_startsParam {c : Challenge} {pad : List Char} (h : WritesChallenge c text)
    (hp : Blanks pad) (he : Ends rest) : startsParam (text ++ (pad ++ rest)) = false := by
  cases h with
  | @alone scheme hs =>
    have hsep := isSeparator_pad hp
    obtain ⟨pad', hp', hdrop⟩ := exists_pad hsep he
    refine startsParam_word hs (stops_pad hsep he fun _ hc => (not_in_words hc).1) ?_
    rw [hdrop]
    refine stops_pad hp' he fun c hc => ?_
    rcases isSeparator_cases hc with rfl | rfl | rfl | rfl | rfl | rfl <;> decide
  | @payload scheme payload gap hs hne hg h =>
    have hstart : Stops isGap (payload.toList ++ (pad ++ rest)) :=
      h.stops fun _ => not_isGap_of_isPayloadChar
    simp only [List.append_assoc]
    refine startsParam_word hs (stops_gap hg hne) ?_
    rw [dropWhile_run hg hstart]
    refine h.stops fun c hc => beq_eq_false_iff_ne.mpr ?_
    rintro rfl
    exact absurd hc (by decide)
  | @params scheme params gap text hs hne hg h =>
    have hstart : Stops isGap (text ++ (pad ++ rest)) := h.stops fun _ => not_isGap
    simp only [List.append_assoc]
    refine startsParam_word hs (stops_gap hg hne) ?_
    rw [dropWhile_run hg hstart]
    exact h.stops fun c hc => beq_eq_false_iff_ne.mpr (ne_of_isTokenChar hc (by decide))

/-! ## Headers -/

theorem readChars_of_nil {cs : List Char} (h : cs.dropWhile isSeparator = []) :
    readChars cs = [] := by
  rw [readChars]
  split
  next => rfl
  next heq => simp [h] at heq

/-- A text that has but separators before a scheme is read from the scheme on. -/
theorem readChars_of_word {cs scheme tail : List Char} (hs : Word scheme)
    (ht : Stops isTokenChar tail) (h : cs.dropWhile isSeparator = scheme ++ tail) :
    readChars cs = (takeDetails (String.ofList scheme) tail).1 ::
      readChars (takeDetails (String.ofList scheme) tail).2 := by
  rw [readChars]
  split
  next heq => simp [heq, hs.1] at h
  next c rest heq =>
    have hcs : c :: rest = scheme ++ tail := heq.symm.trans h
    simp [hcs, takeWhile_run hs.2 ht, dropWhile_run hs.2 ht, hs.1]

theorem WritesChallenge.stops {c : Challenge} (h : WritesChallenge c text) :
    Stops isSeparator (text ++ rest) := by
  cases h with
  | @alone _ hs => exact hs.stops fun _ => not_isSeparator
  | payload hs | params hs =>
    rw [List.append_assoc]
    exact hs.stops fun _ => not_isSeparator

variable {challenges : List Challenge}

/-- Where a list of challenges goes on, no parameter starts. -/
theorem WritesWith.not_startsParam {pads : Challenge → List Char → Prop}
    (h : WritesWith pads challenges text) (hpads : ∀ c pad, pads c pad → Blanks pad) :
    startsParam (text.dropWhile isSeparator) = false := by
  cases h with
  | nil hl =>
    rw [dropWhile_all hl]
    rfl
  | cons hl hc hp he =>
    rw [dropWhile_run hl hc.stops]
    exact hc.not_startsParam (hpads _ _ hp) he

theorem readChars_writes (h : Writes challenges text) : readChars text = challenges := by
  -- what is left of a challenge stands before the next one like a lead
  suffices hlead : ∀ lead, Separators lead → readChars (lead ++ text) = challenges from
    hlead [] (by simp [Separators])
  induction h with
  | nil hl =>
    intro lead' hl'
    refine readChars_of_nil ?_
    rw [List.dropWhile_append_of_pos hl']
    exact dropWhile_all hl
  | @cons c challenges lead text pad rest hl hc hp he hr ih =>
    intro lead' hl'
    obtain ⟨tail, left, htext, hword, hstop, hleft, hread⟩ :=
      takeDetails_writes hc hp he (hr.not_startsParam fun _ _ => And.left)
    have hstart : (lead' ++ (lead ++ (text ++ (pad ++ rest)))).dropWhile isSeparator =
        c.scheme.toList ++ tail := by
      rw [List.dropWhile_append_of_pos hl', dropWhile_run hl hc.stops, htext]
    rw [readChars_of_word hword hstop hstart, String.ofList_toList, hread, ih left hleft]

/-- A text that is read back has but spaces and tabs behind its payloads. -/
theorem writes_of_readChars (h : WritesLoosely challenges text) (hread : readChars text = challenges) :
    Writes challenges text := by
  suffices hlead : ∀ lead, Separators lead → readChars (lead ++ text) = challenges →
      Writes challenges text from hlead [] (by simp [Separators]) hread
  clear hread
  induction h with
  | nil hl => exact fun _ _ _ => .nil hl
  | @cons c challenges lead text pad rest hl hc hb he hr ih =>
    intro lead' hl' hread
    have hstart {tail : List Char} (htext : text ++ (pad ++ rest) = c.scheme.toList ++ tail) :
        (lead' ++ (lead ++ (text ++ (pad ++ rest)))).dropWhile isSeparator =
          c.scheme.toList ++ tail := by
      rw [List.dropWhile_append_of_pos hl', dropWhile_run hl hc.stops, htext]
    by_cases hp : Pads c pad
    · obtain ⟨tail, left, htext, hword, hstop, hleft, hdetails⟩ :=
        takeDetails_writes hc hp he (hr.not_startsParam fun _ _ => id)
      rw [readChars_of_word hword hstop (hstart htext), String.ofList_toList, hdetails] at hread
      exact .cons hl hc hp he (ih left hleft (List.cons.inj hread).2)
    · obtain ⟨tail, htext, hword, hstop, hdetails⟩ := takeDetails_not_pads hc hb hp he
      rw [readChars_of_word hword hstop (hstart htext), String.ofList_toList] at hread
      exact absurd (List.cons.inj hread).1 hdetails

/-- A list of challenges has a text and is read back from each of its texts.  Of the texts with blanks of
any kind behind a payload these are all from which it is read back. -/
theorem read_writes (h : ∀ c ∈ challenges, c.Writable) :
    (∃ header : String, Writes challenges header.toList) ∧
      (∀ header : String, Writes challenges header.toList → read header = challenges) ∧
      ∀ header : String, Writes challenges header.toList ↔
        WritesLoosely challenges header.toList ∧ read header = challenges := by
  refine ⟨?_, fun header => readChars_writes, fun header => ⟨fun hw => ?_, fun ⟨hw, hread⟩ => ?_⟩⟩
  · obtain ⟨text, htext⟩ := exists_writes h
    refine ⟨String.ofList text, ?_⟩
    rwa [String.toList_ofList]
  · exact ⟨hw.loosely fun _ _ => And.left, readChars_writes hw⟩
  · exact writes_of_readChars hw hread

theorem read_payloadAndParams :
    (∀ c ∈ [{ scheme := "Negotiate", payload := some "YQ==" },
        { scheme := "Bearer", params := [("realm", "a,\"b"), ("scope", "x")] : Challenge }],
      c.Writable) ∧
    read ", Negotiate YQ== ,,Bearer realm = \"a,\\\"b\" , scope=x\t" =
      [{ scheme := "Negotiate", payload := some "YQ==" },
        { scheme := "Bearer", params := [("realm", "a,\"b"), ("scope", "x")] }] := by
  have hnegotiate : Word "Negotiate".toList := word_of_isToken (by decide)
  have hbearer : Word "Bearer".toList := word_of_isToken (by decide)
  have hrealm : Word "realm".toList := word_of_isToken (by decide)
  have hscope : Word "scope".toList := word_of_isToken (by decide)
  have hchars : ∀ c ∈ ['Y', 'Q'], isPayloadChar c = true := List.all_eq_true.mp (by decide)
  have hsigns : ∀ c ∈ ['=', '='], c = '=' := by simp
  have hpayload : Payload "YQ==".toList := .intro (List.cons_ne_nil _ _) hchars hsigns
  have hwritable : ∀ c ∈ [{ scheme := "Negotiate", payload := some "YQ==" },
      { scheme := "Bearer", params := [("realm", "a,\"b"), ("scope", "x")] : Challenge }],
      c.Writable := by
    intro c hc
    simp only [List.mem_cons, List.not_mem_nil, or_false] at hc
    rcases hc with rfl | rfl
    · exact ⟨hnegotiate, nofun, by simpa using hpayload⟩
    · refine ⟨hbearer, fun param hp => ?_, nofun⟩
      simp only [List.mem_cons, List.not_mem_nil, or_false] at hp
      rcases hp with rfl | rfl
      · exact hrealm
      · exact hscope
  have hblank : Gap [' '] := by simp [Gap, isGap]
  have hnone : Gap [] := by simp [Gap]
  have hblanks : Blanks [' '] := by simp [Blanks, Text.isAsciiBlank]
  have htab : Gap ['\t'] := by simp [Gap, isGap]
  have hseparators : ∀ cs ∈ [[' '], [',', ' '], [',', ','], []], Separators cs := by
    simp [Separators, isSeparator, Text.isAsciiBlank]
  have hquotes : WritesValue "a,\"b".toList ('"' :: (['a', ',', '\\', '"', 'b'] ++ ['"'])) := by
    have hb : Quotes ['b'] ['b'] := .plain (by decide) (by decide) .nil
    exact .quoted (.plain (by decide) (by decide) (.plain (by decide) (by decide) (.escaped hb)))
  have hbare : WritesValue "x".toList ['x'] := .bare (word_of_isToken (by decide))
  have hparams := WritesParams.cons (.intro hrealm hblank hblank hquotes) hblanks
    (hseparators [' '] (by simp)) (.one (.intro hscope hnone hnone hbare))
  have hfirst := WritesChallenge.payload hnegotiate (List.cons_ne_nil _ _) hblank hpayload
  have hsecond := WritesChallenge.params hbearer (List.cons_ne_nil _ _) hblank hparams
  have hwrites : Writes _ _ := .cons (hseparators [',', ' '] (by simp)) hfirst (hblank.pads _)
    (ends_cons _) (.cons (hseparators [',', ','] (by simp)) hsecond (htab.pads _) (by simp [Ends])
      (.nil (hseparators [] (by simp))))
  exact ⟨hwritable, (read_writes hwritable).2.1 _ hwrites⟩

/-- A text with a line feed behind a payload is not read back. -/
theorem not_always_read : ¬ ∀ (challenges : List Challenge) (header : String),
    (∀ c ∈ challenges, c.Writable) → WritesLoosely challenges header.toList →
      read header = challenges := by
  intro hall
  have hnegotiate : Word "Negotiate".toList := word_of_isToken (by decide)
  have hchars : ∀ c ∈ ['Y', 'Q'], isPayloadChar c = true := List.all_eq_true.mp (by decide)
  have hsigns : ∀ c ∈ ['=', '='], c = '=' := by simp
  have hpayload : Payload "YQ==".toList := .intro (List.cons_ne_nil _ _) hchars hsigns
  have hwritable : ∀ c ∈ [({ scheme := "Negotiate", payload := some "YQ==" } : Challenge)],
      c.Writable := by
    intro c hc
    obtain rfl := List.mem_singleton.mp hc
    exact ⟨hnegotiate, nofun, by simpa using hpayload⟩
  have hnone : Separators [] := by simp [Separators]
  have hgap : Gap [' '] := by simp [Gap, isGap]
  have hfeed : Blanks ['\n'] := by simp [Blanks, Text.isAsciiBlank]
  have hchallenge := WritesChallenge.payload hnegotiate (List.cons_ne_nil _ _) hgap hpayload
  have hwrites : WritesLoosely [{ scheme := "Negotiate", payload := some "YQ==" }]
      ([] ++ ("Negotiate".toList ++ ([' '] ++ "YQ==".toList) ++ (['\n'] ++ []))) :=
    .cons hnone hchallenge hfeed (by simp [Ends]) (.nil hnone)
  have hread := hall _ "Negotiate YQ==\n" hwritable (by simpa using hwrites)
  have hfound : (read "Negotiate YQ==\n").map Challenge.params = [[("YQ", "=")]] := by decide +kernel
  rw [hread] at hfound
  cases hfound

end BearerTokens.Challenge
