import BearerTokens.Proofs.Challenge.Reading

/-! # What reading leaves

Whatever the text, the challenges that are read from it can be written: a scheme and names are words, and a
payload stands in place of parameters.  Written back with every value in quotes they are read as they are,
so a text and the text of its challenges stand for the same list.
-/

namespace BearerTokens.Challenge

open Http (isTokenChar)

/-! ## The text of a list of challenges -/

def quotedText (value : String) : String :=
  String.ofList ('"' :: (value.toList.flatMap fun c => if c = '"' ∨ c = '\\' then ['\\', c] else [c]) ++
    ['"'])

def paramText (param : String × String) : String := param.1 ++ "=" ++ quotedText param.2

def text (c : Challenge) : String :=
  match c.payload, c.params with
  | some payload, _ => c.scheme ++ " " ++ payload
  | none, [] => c.scheme
  | none, params => c.scheme ++ " " ++ ", ".intercalate (params.map paramText)

def write (challenges : List Challenge) : String := ", ".intercalate (challenges.map text)

theorem quotes_escaped (value : List Char) :
    Quotes value (value.flatMap fun c => if c = '"' ∨ c = '\\' then ['\\', c] else [c]) := by
  induction value with
  | nil => exact .nil
  | cons c value ih =>
    by_cases hc : c = '"' ∨ c = '\\'
    · simpa [hc] using ih.escaped (c := c)
    · have hplain := not_or.mp hc
      simpa [hc] using ih.plain hplain.1 hplain.2

theorem writesValue_quotedText (value : String) :
    WritesValue value.toList (quotedText value).toList := by
  rw [quotedText, String.toList_ofList]
  exact .quoted (quotes_escaped value.toList)

theorem writesParam_paramText {param : String × String} (hn : Word param.1.toList) :
    WritesParam param (paramText param).toList := by
  have hnone : Gap [] := by simp [Gap]
  have h := WritesParam.intro hn hnone hnone (writesValue_quotedText param.2)
  simpa [paramText] using h

theorem writesParams_intercalate {param : String × String} {params : List (String × String)}
    (hn : ∀ p ∈ param :: params, Word p.1.toList) :
    WritesParams (param :: params)
      (", ".intercalate ((param :: params).map paramText)).toList := by
  rw [String.toList_intercalate]
  induction params generalizing param with
  | nil =>
    have h := WritesParams.one (writesParam_paramText (hn param List.mem_cons_self))
    simpa using h
  | cons next params ih =>
    have hfirst := writesParam_paramText (hn param List.mem_cons_self)
    have hrest := ih fun p hp => hn p (List.mem_cons_of_mem _ hp)
    have hpad : Blanks [] := by simp [Blanks]
    have hspace : Separators [' '] := by simp [Separators, isSeparator, Text.isAsciiBlank]
    have h := WritesParams.cons hfirst hpad hspace hrest
    simpa [List.intercalate] using h

theorem writesChallenge_text {c : Challenge} (hc : c.Writable) :
    WritesChallenge c c.text.toList := by
  obtain ⟨scheme, params, payload⟩ := c
  have hgap : Gap [' '] := by simp [Gap, isGap]
  cases payload with
  | some payload =>
    obtain ⟨hp, hnone⟩ := hc.payload payload rfl
    cases hnone
    have h := WritesChallenge.payload hc.scheme (List.cons_ne_nil _ _) hgap hp
    simpa [text] using h
  | none =>
    cases params with
    | nil => exact .alone hc.scheme
    | cons param params =>
      have hparams := writesParams_intercalate hc.names
      have h := WritesChallenge.params hc.scheme (List.cons_ne_nil _ _) hgap hparams
      simpa [text] using h

theorem writes_write {challenges : List Challenge} (h : ∀ c ∈ challenges, c.Writable) :
    Writes challenges (write challenges).toList := by
  have hlead : Separators [] := by simp [Separators]
  rw [write, String.toList_intercalate]
  induction challenges with
  | nil => exact .nil hlead
  | cons c challenges ih =>
    have hone : Writes [c] c.text.toList := by
      have hc := writesChallenge_text (h c List.mem_cons_self)
      simpa using WritesWith.cons hlead hc (pads_nil c) (by simp [Ends]) (.nil hlead)
    cases challenges with
    | nil => simpa using hone
    | cons next challenges =>
      have hrest := ih fun c hc => h c (List.mem_cons_of_mem _ hc)
      simpa [List.intercalate] using hone.join hrest

/-! ## What is read can be written -/

theorem word_takeWhile {cs : List Char} (h : (cs.takeWhile isTokenChar).isEmpty = false) :
    Word (String.ofList (cs.takeWhile isTokenChar)).toList := by
  rw [String.toList_ofList]
  refine ⟨fun hnone => ?_, fun c hc => List.all_eq_true.mp List.all_takeWhile c hc⟩
  rw [hnone] at h
  cases h

theorem word_of_startsParam {cs : List Char} (h : startsParam cs = true) :
    Word (takeParam cs).1.1.toList := by
  have hname : (cs.takeWhile isTokenChar).isEmpty = false := by
    simp only [startsParam, Bool.and_eq_true, Bool.not_eq_true'] at h
    exact h.1
  exact word_takeWhile hname

theorem payload_of_takePayload {cs payload rest : List Char}
    (h : takePayload cs = some (payload, rest)) : Payload payload := by
  simp only [takePayload] at h
  split at h
  next => cases h
  next hbody =>
    split at h
    next =>
      cases h
      refine .intro (fun hnone => hbody (by simp [hnone])) ?_ ?_
      · intro c hc
        exact List.all_eq_true.mp List.all_takeWhile c hc
      · intro c hc
        exact beq_iff_eq.mp (List.all_eq_true.mp List.all_takeWhile c hc)
    next => cases h

theorem takeParams_names (cs : List Char) :
    ∀ param ∈ (takeParams cs).1, Word param.1.toList := by
  fun_induction takeParams cs with
  | case1 cs start h param separator next hn more ih =>
    intro p hp
    rcases List.mem_cons.mp hp with rfl | hp
    · exact word_of_startsParam h
    · exact ih p hp
  | case2 cs start h param separator next hn =>
    intro p hp
    obtain rfl := List.mem_singleton.mp hp
    exact word_of_startsParam h
  | case3 => simp

theorem takeDetails_writable {scheme : String} (hs : Word scheme.toList) (cs : List Char) :
    (takeDetails scheme cs).1.Writable := by
  cases hp : takePayload (cs.dropWhile isGap) with
  | some found =>
    obtain ⟨payload, rest⟩ := found
    simp only [takeDetails, hp]
    refine ⟨hs, by simp, fun payload' he => ⟨?_, rfl⟩⟩
    cases he
    rw [String.toList_ofList]
    exact payload_of_takePayload hp
  | none =>
    simp only [takeDetails, hp]
    refine ⟨hs, takeParams_names _, fun payload he => ?_⟩
    cases he

theorem readChars_writable (cs : List Char) : ∀ c ∈ readChars cs, c.Writable := by
  fun_induction readChars cs with
  | case1 => simp
  | case2 cs c rest _ _ ih => exact ih
  | case3 cs c rest _ hw scheme read ih =>
    intro d hd
    rcases List.mem_cons.mp hd with rfl | hd
    · exact takeDetails_writable (word_takeWhile (Bool.eq_false_iff.mpr hw)) _
    · exact ih d hd

/-- The challenges of any text can be written and are read back as they are, and no others are read than
those that can be written. -/
theorem read_canonical (header : String) (challenges : List Challenge) :
    ((∀ c ∈ read header, c.Writable) ∧ read (write (read header)) = read header) ∧
      ((∃ text, read text = challenges) ↔ ∀ c ∈ challenges, c.Writable) := by
  have hwritable (text : String) : ∀ c ∈ read text, c.Writable := readChars_writable text.toList
  have hback {cs : List Challenge} (h : ∀ c ∈ cs, c.Writable) : read (write cs) = cs :=
    readChars_writes (writes_write h)
  refine ⟨⟨hwritable header, hback (hwritable header)⟩, ?_⟩
  constructor
  · rintro ⟨text, rfl⟩
    exact hwritable text
  · intro h
    exact ⟨write challenges, hback h⟩

/-- A sign and a quote out of place, and a value that is not closed. -/
theorem read_canonical_malformed :
    read "= \"x, Bearer claims=\"a\\\"b, c" =
      [{ scheme := "x" }, { scheme := "Bearer", params := [("claims", "a\"b, c")] }] ∧
    ({ scheme := "Bearer", params := [("claims", "a\"b, c")] } : Challenge).Writable ∧
    read (write (read "= \"x, Bearer claims=\"a\\\"b, c")) =
      read "= \"x, Bearer claims=\"a\\\"b, c" := by
  have hread : read "= \"x, Bearer claims=\"a\\\"b, c" =
      [{ scheme := "x" }, { scheme := "Bearer", params := [("claims", "a\"b, c")] }] := by
    decide +kernel
  obtain ⟨hwritable, hback⟩ := (read_canonical "= \"x, Bearer claims=\"a\\\"b, c" []).1
  refine ⟨hread, hwritable _ ?_, hback⟩
  rw [hread]
  simp

end BearerTokens.Challenge
