import BearerTokens.Proofs.Challenge.Prefixes

/-! # Where a value begins

A front opens a value when the reader, where the front is over, has just passed the `=` of a parameter.
Whatever value follows there, it becomes the value of that parameter and nothing else: the challenges before
it, its name and what is read behind it do not depend on it.
-/

namespace BearerTokens.Challenge

open Http (isTokenChar)

/-- Reading parameters, the reader comes to a value where the text is over. -/
inductive ParamsOpen : List Char → Prop where
  | here {gap name before after : List Char} (hg : Gap gap) (hn : Word name) (hb : Gap before)
      (ha : Gap after) : ParamsOpen (gap ++ (name ++ (before ++ '=' :: after)))
  | next {cs : List Char} (hs : startsParam (cs.dropWhile isGap) = true)
      (h : ParamsOpen (behindComma (takeParam (cs.dropWhile isGap)).2)) : ParamsOpen cs

/-- Reading challenges, the reader comes to a value where the text is over. -/
inductive Opens : List Char → Prop where
  /-- A separator, or a character that is dropped. -/
  | skip {c : Char} {rest : List Char} (hc : isTokenChar c = false) (h : Opens rest) :
      Opens (c :: rest)
  /-- A challenge with a payload that is over before. -/
  | payload {scheme tail payload rest : List Char} (hs : Word scheme) (ht : Stops isTokenChar tail)
      (hp : takePayload (tail.dropWhile isGap) = some (payload, rest)) (h : Opens rest) :
      Opens (scheme ++ tail)
  /-- A challenge without payload that is over before. -/
  | passed {scheme tail : List Char} (hs : Word scheme) (ht : Stops isTokenChar tail)
      (hp : takePayload (tail.dropWhile isGap ++ ['"']) = none) (h : Opens (takeParams tail).2) :
      Opens (scheme ++ tail)
  /-- The challenge of the value. -/
  | params {scheme tail : List Char} (hs : Word scheme) (ht : Stops isTokenChar tail)
      (hp : takePayload (tail.dropWhile isGap ++ ['"']) = none) (h : ParamsOpen tail) :
      Opens (scheme ++ tail)

def Begins (t : List Char) : Prop :=
  ∃ c more, t = c :: more ∧ isGap c = false ∧ c ≠ '=' ∧ c ≠ ','

variable {cs t : List Char}

theorem ParamsOpen.startsParam (h : ParamsOpen cs) : startsParam (cs.dropWhile isGap) = true := by
  cases h with
  | @here gap name before after hg hn hb ha =>
    have hstop := stops_afterName hb after
    have hsign : Stops isGap ('=' :: after) := stops_cons.mpr (by decide)
    have hname : Stops isGap (name ++ (before ++ '=' :: after)) := hn.stops fun _ => not_isGap
    rw [dropWhile_run hg hname, Challenge.startsParam, takeWhile_run hn.2 hstop,
      dropWhile_run hn.2 hstop, dropWhile_run hb hsign]
    simp [hn.1]
  | next hs => exact hs

theorem ParamsOpen.ne_nil (h : ParamsOpen cs) : cs ≠ [] :=
  ne_nil_of_dropWhile (ne_nil_of_startsParam h.startsParam)

theorem takeParam_named {name before after : List Char} (hn : Word name) (hb : Gap before)
    (ha : Gap after) (ht : Stops isGap t) : takeParam (name ++ (before ++ '=' :: (after ++ t))) =
      ((String.ofList name, String.ofList (takeValue t).1), (takeValue t).2) := by
  have hstop := stops_afterName hb (after ++ t)
  have hsign : Stops isGap ('=' :: (after ++ t)) := stops_cons.mpr (by decide)
  have hbehind : behindName (name ++ (before ++ '=' :: (after ++ t))) = t := by
    rw [behindName, dropWhile_run hn.2 hstop, dropWhile_run hb hsign, List.drop_one, List.tail_cons,
      dropWhile_run ha ht]
  rw [takeParam_eq, takeWhile_run hn.2 hstop, hbehind]

/-- What is read of the parameters up to the value and behind it. -/
theorem ParamsOpen.reads (h : ParamsOpen cs) : ∃ params name, ∀ t, Begins t →
    takeParams (cs ++ t) =
      (params ++ (name, String.ofList (takeValue t).1) :: (takeMore (takeValue t).2).1,
        (takeMore (takeValue t).2).2) := by
  induction h with
  | @here gap name before after hg hn hb ha =>
    refine ⟨[], String.ofList name, ?_⟩
    rintro t ⟨c, more, rfl, hc, -, -⟩
    have hs := (ParamsOpen.here hg hn hb ha).startsParam
    have hname (behind : List Char) : Stops isGap (name ++ behind) := hn.stops fun _ => not_isGap
    have hstart : (gap ++ (name ++ (before ++ '=' :: after)) ++ (c :: more)).dropWhile isGap =
        name ++ (before ++ '=' :: (after ++ c :: more)) := by
      simp only [List.append_assoc, List.cons_append]
      exact dropWhile_run hg (hname _)
    rw [dropWhile_run hg (hname _)] at hs
    have hs' : Challenge.startsParam (name ++ (before ++ '=' :: (after ++ c :: more))) = true := by
      have happ := startsParam_append (startsParam_ne_nil hs) (c :: more)
      simpa [hs] using happ
    rw [takeParams_eq, hstart, if_pos hs', takeParam_named hn hb ha (stops_cons.mpr hc)]
    rfl
  | @next cs hs h ih =>
    obtain ⟨params, name, hread⟩ := ih
    refine ⟨(takeParam (cs.dropWhile isGap)).1 :: params, name, fun t ht => ?_⟩
    have hcomma : (takeParam (cs.dropWhile isGap)).2.dropWhile (· != ',') ≠ [] :=
      ne_nil_of_dropWhile h.ne_nil
    have hn : Challenge.startsParam (behindComma (takeParam (cs.dropWhile isGap)).2) = true := by
      have hnext := h.startsParam
      rwa [(stops_behindComma _).dropWhile_eq] at hnext
    have hstart : (cs ++ t).dropWhile isGap = cs.dropWhile isGap ++ t :=
      dropWhile_append_of_ne_nil (ne_nil_of_startsParam hs) t
    have hs' : Challenge.startsParam (cs.dropWhile isGap ++ t) = true := by
      rw [startsParam_append (startsParam_ne_nil hs), hs]
    have hn' : Challenge.startsParam (behindComma (takeParam (cs.dropWhile isGap)).2 ++ t) = true := by
      rw [startsParam_append (startsParam_ne_nil hn), hn]
    rw [takeParams_eq, hstart, if_pos hs', takeParam_append (ne_nil_of_dropWhile hcomma), takeMore,
      behindComma_append h.ne_nil, if_pos hn', hread t ht]
    rfl

theorem ParamsOpen.sign_mem (h : ParamsOpen cs) : '=' ∈ cs.dropWhile isGap := by
  obtain ⟨more, hmore⟩ := sign_of_startsParam h.startsParam
  refine (List.dropWhile_suffix isTokenChar).subset ((List.dropWhile_suffix isGap).subset ?_)
  rw [hmore]
  exact List.mem_cons_self

theorem Opens.sign_mem (h : Opens cs) : '=' ∈ cs := by
  induction h with
  | skip _ _ ih => exact List.mem_cons_of_mem _ ih
  | payload _ _ hp _ ih =>
    obtain ⟨-, -, rfl, -⟩ := takePayload_eq_some_iff.mp hp
    refine List.mem_append_right _ ?_
    exact (List.dropWhile_suffix isGap).subset ((behindPayload_suffix _).subset ih)
  | passed _ _ _ _ ih =>
    refine List.mem_append_right _ ?_
    exact (List.dropWhile_suffix isGap).subset ((takeParams_suffix _).subset ih)
  | params _ _ _ h => exact List.mem_append_right _ ((List.dropWhile_suffix isGap).subset h.sign_mem)

theorem firm_word {scheme tail : List Char} (hs : Word scheme) (ht : Stops isTokenChar tail) :
    Firm (scheme ++ tail) ↔ tail.dropWhile isGap ≠ [] := by
  rw [Firm, (hs.stops fun _ => not_isSeparator).dropWhile_eq, dropWhile_run hs.2 ht]

theorem Opens.firm (h : Opens cs) : Firm cs := by
  induction h with
  | @skip c rest hc _ ih =>
    cases hs : isSeparator c with
    | true => rwa [Firm, List.dropWhile_cons_of_pos hs]
    | false =>
      have hg : isGap c ≠ true := fun hg => Bool.eq_false_iff.mp hs (isSeparator_of_isGap hg)
      rw [Firm, List.dropWhile_cons_of_neg (Bool.eq_false_iff.mp hs),
        List.dropWhile_cons_of_neg (Bool.eq_false_iff.mp hc), List.dropWhile_cons_of_neg hg]
      exact List.cons_ne_nil _ _
  | @payload scheme tail payload rest hs ht hp _ _ =>
    refine (firm_word hs ht).mpr ?_
    intro hnone
    rw [hnone] at hp
    cases hp
  | passed hs ht _ _ ih => exact (firm_word hs ht).mpr (ne_nil_of_takeParams ih.ne_nil)
  | params hs ht _ h => exact (firm_word hs ht).mpr (ne_nil_of_startsParam h.startsParam)

/-- A quote that keeps a text from being a payload may be replaced by any value. -/
theorem takePayload_begins (hsign : '=' ∈ cs) (hp : takePayload (cs ++ ['"']) = none)
    (ht : Begins t) : takePayload (cs ++ t) = none := by
  obtain ⟨c, more, rfl, hc, hequals, hcomma⟩ := ht
  have hbody : cs.dropWhile isPayloadChar ≠ [] := by
    intro hall
    exact absurd (List.dropWhile_eq_nil_iff.mp hall '=' hsign) (by decide)
  have hrest (d : Char) (tail : List Char) (hd : isGap d = false) (hd' : d ≠ '=') :
      behindPayload (cs ++ d :: tail) = behindPayload cs ++ d :: tail := by
    have hsigns : Stops (· == '=') (d :: tail) := stops_cons.mpr (beq_eq_false_iff_ne.mpr hd')
    have hgap : Stops isGap (d :: tail) := stops_cons.mpr hd
    rw [behindPayload, dropWhile_append_of_ne_nil hbody, hsigns.dropWhile_append,
      hgap.dropWhile_append]
    rfl
  refine takePayload_eq_none_iff.mpr ?_
  -- the characters of the payload end before the `=`, so the value changes only what follows them
  rw [takeWhile_append_of_ne_nil hbody, hrest c more hc hequals]
  rcases takePayload_eq_none_iff.mp hp with hnone | ⟨d, tail, htail, hd⟩
  · left
    rwa [takeWhile_append_of_ne_nil hbody] at hnone
  · right
    rw [hrest '"' [] (by decide) (by decide)] at htail
    cases hb : behindPayload cs with
    | nil => exact ⟨c, more, rfl, hcomma⟩
    | cons e behind =>
      rw [hb] at htail
      obtain ⟨rfl, -⟩ := List.cons.inj htail
      exact ⟨e, behind ++ c :: more, rfl, hd⟩

theorem readChars_scheme {scheme tail : List Char} (hs : Word scheme) (ht : Stops isTokenChar tail) :
    readChars (scheme ++ tail) = (takeDetails (String.ofList scheme) tail).1 ::
      readChars (takeDetails (String.ofList scheme) tail).2 :=
  readChars_of_word hs ht (hs.stops fun _ => not_isSeparator).dropWhile_eq

theorem readChars_params {scheme tail : List Char} (hs : Word scheme) (ht : Stops isTokenChar tail)
    (hp : takePayload (tail.dropWhile isGap) = none) : readChars (scheme ++ tail) =
      { scheme := String.ofList scheme, params := (takeParams tail).1 } ::
        readChars (takeParams tail).2 := by
  rw [readChars_scheme hs ht, takeDetails_eq, hp, takeParams_gap]

/-- What is read of a text up to the value and behind it. -/
theorem Opens.reads (h : Opens cs) : ∃ before scheme params name, ∀ t, Begins t →
    readChars (cs ++ t) = before ++
      { scheme, params := params ++ (name, String.ofList (takeValue t).1) ::
          (takeMore (takeValue t).2).1 } :: readChars (takeMore (takeValue t).2).2 := by
  induction h with
  | @skip c rest hc _ ih =>
    obtain ⟨before, scheme, params, name, hread⟩ := ih
    refine ⟨before, scheme, params, name, fun t ht => ?_⟩
    rw [List.cons_append, readChars_skip hc, hread t ht]
  | @payload scheme tail payload rest hs htail hp h ih =>
    obtain ⟨before, scheme', params, name, hread⟩ := ih
    refine ⟨{ scheme := String.ofList scheme, payload := some (String.ofList payload) } :: before,
      scheme', params, name, fun t ht => ?_⟩
    have hne : tail.dropWhile isGap ≠ [] := by
      intro hnone
      rw [hnone] at hp
      cases hp
    have hp' : takePayload ((tail ++ t).dropWhile isGap) = some (payload, rest ++ t) := by
      rw [dropWhile_append_of_ne_nil hne]
      exact takePayload_append hp h.firm.ne_nil t
    rw [List.append_assoc, readChars_scheme hs (htail.append (ne_nil_of_dropWhile hne)),
      takeDetails_eq, hp']
    simp only [hread t ht, List.cons_append]
  | @passed scheme tail hs htail hp h ih =>
    obtain ⟨before, scheme', params, name, hread⟩ := ih
    refine ⟨{ scheme := String.ofList scheme, params := (takeParams tail).1 } :: before,
      scheme', params, name, fun t ht => ?_⟩
    have hne : tail.dropWhile isGap ≠ [] := ne_nil_of_takeParams h.firm.ne_nil
    have hp' : takePayload ((tail ++ t).dropWhile isGap) = none := by
      rw [dropWhile_append_of_ne_nil hne]
      exact takePayload_begins ((takeParams_suffix tail).subset h.sign_mem) hp ht
    rw [List.append_assoc, readChars_params hs (htail.append (ne_nil_of_dropWhile hne)) hp',
      takeParams_append h.firm]
    simp only [hread t ht, List.cons_append]
  | @params scheme tail hs htail hp h =>
    obtain ⟨params, name, hread⟩ := h.reads
    refine ⟨[], String.ofList scheme, params, name, fun t ht => ?_⟩
    have hne : tail.dropWhile isGap ≠ [] := ne_nil_of_startsParam h.startsParam
    have hp' : takePayload ((tail ++ t).dropWhile isGap) = none := by
      rw [dropWhile_append_of_ne_nil hne]
      exact takePayload_begins h.sign_mem hp ht
    rw [List.append_assoc, readChars_params hs (htail.append (ne_nil_of_dropWhile hne)) hp', hread t ht]
    rfl

end BearerTokens.Challenge
