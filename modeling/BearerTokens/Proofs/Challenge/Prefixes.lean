import BearerTokens.Proofs.Challenge.Reading
import Mathlib.Data.List.TakeWhile

/-! # Reading with more text behind

Reading goes from left to right, and what a reader leaves is the end of what it was given.  So where it
leaves something, it reads the same when more text follows, and leaves that too.  A reader of parameters
also looks at the word that comes next: there the text has to go on behind that word.
-/

namespace BearerTokens.Challenge

open Http (isTokenChar)

variable {p : Char → Bool} {cs : List Char}

theorem dropWhile_append_of_ne_nil (h : cs.dropWhile p ≠ []) (t : List Char) :
    (cs ++ t).dropWhile p = cs.dropWhile p ++ t := by
  rw [List.dropWhile_append, if_neg (by simpa using h)]

theorem takeWhile_append_of_ne_nil (h : cs.dropWhile p ≠ []) (t : List Char) :
    (cs ++ t).takeWhile p = cs.takeWhile p := by
  have hlength : (cs.takeWhile p).length ≠ cs.length := by
    intro heq
    have hsplit := congrArg List.length (List.takeWhile_append_dropWhile (p := p) (l := cs))
    rw [List.length_append, heq] at hsplit
    have hnone : (cs.dropWhile p).length = 0 := by omega
    exact h (List.length_eq_zero_iff.mp hnone)
  rw [List.takeWhile_append, if_neg hlength]

theorem Stops.dropWhile_append {t : List Char} (hs : Stops p t) (cs : List Char) :
    (cs ++ t).dropWhile p = cs.dropWhile p ++ t := by
  rw [List.dropWhile_append]
  split
  next hnone => rw [hs.dropWhile_eq, List.isEmpty_iff.mp hnone, List.nil_append]
  next => rfl

theorem Stops.takeWhile_append {t : List Char} (hs : Stops p t) (cs : List Char) :
    (cs ++ t).takeWhile p = cs.takeWhile p := by
  rw [List.takeWhile_append]
  split
  next hall =>
    have heq : cs.takeWhile p = cs := (List.takeWhile_prefix p).eq_of_length hall
    rw [hs.takeWhile_eq, heq, List.append_nil]
  next => rfl

theorem ne_nil_of_dropWhile (h : cs.dropWhile p ≠ []) : cs ≠ [] := by
  rintro rfl
  exact h rfl

theorem stops_dropWhile (p : Char → Bool) (cs : List Char) : Stops p (cs.dropWhile p) := by
  intro c hc
  have h := List.head?_dropWhile_not p cs
  rwa [Option.mem_def.mp hc] at h

theorem takeQuoted_plain {c : Char} (hq : c ≠ '"') (hb : c ≠ '\\') (cs : List Char) :
    takeQuoted (c :: cs) = (c :: (takeQuoted cs).1, (takeQuoted cs).2) := by
  simp [takeQuoted, hb]

theorem takeQuoted_append (h : (takeQuoted cs).2 ≠ []) (t : List Char) :
    takeQuoted (cs ++ t) = ((takeQuoted cs).1, (takeQuoted cs).2 ++ t) := by
  fun_induction takeQuoted cs with
  | case1 => exact absurd rfl h
  | case2 rest => simp [takeQuoted]
  | case3 => exact absurd rfl h
  | case4 c rest read ih => simp [takeQuoted, read, ih h]
  | case5 c rest hquote hlast hescape read ih =>
    have hb : c ≠ '\\' := by
      rintro rfl
      cases rest with
      | nil => exact hlast rfl rfl
      | cons d rest => exact hescape d rest rfl rfl
    rw [List.cons_append, takeQuoted_plain hquote hb, ih h]

theorem takeValue_plain {c : Char} (hq : c ≠ '"') (cs : List Char) : takeValue (c :: cs) =
    ((c :: cs).takeWhile isBareChar, (c :: cs).dropWhile isBareChar) := by
  unfold takeValue
  split
  next heq => exact absurd (List.cons.inj heq).1 hq
  next => rfl

theorem takeValue_append (h : (takeValue cs).2 ≠ []) (t : List Char) :
    takeValue (cs ++ t) = ((takeValue cs).1, (takeValue cs).2 ++ t) := by
  cases cs with
  | nil => exact absurd rfl h
  | cons c cs =>
    by_cases hq : c = '"'
    · subst hq
      exact takeQuoted_append h t
    · rw [takeValue_plain hq] at h ⊢
      rw [List.cons_append, takeValue_plain hq, ← List.cons_append, takeWhile_append_of_ne_nil h,
        dropWhile_append_of_ne_nil h]

def behindName (cs : List Char) : List Char :=
  (((cs.dropWhile isTokenChar).dropWhile isGap).drop 1).dropWhile isGap

theorem takeParam_eq (cs : List Char) : takeParam cs =
    ((String.ofList (cs.takeWhile isTokenChar), String.ofList (takeValue (behindName cs)).1),
      (takeValue (behindName cs)).2) := rfl

theorem drop_append_of_ne_nil (h : cs.drop 1 ≠ []) (t : List Char) :
    (cs ++ t).drop 1 = cs.drop 1 ++ t := by
  cases cs with
  | nil => exact absurd rfl h
  | cons c cs => rfl

theorem takeParam_append (h : (takeParam cs).2 ≠ []) (t : List Char) :
    takeParam (cs ++ t) = ((takeParam cs).1, (takeParam cs).2 ++ t) := by
  have hvalue : behindName cs ≠ [] := by
    intro hnone
    rw [takeParam_eq, hnone] at h
    exact h rfl
  have hgap : ((cs.dropWhile isTokenChar).dropWhile isGap).drop 1 ≠ [] := ne_nil_of_dropWhile hvalue
  have hsign : (cs.dropWhile isTokenChar).dropWhile isGap ≠ [] := by
    intro hnone
    exact hgap (by simp [hnone])
  have hname : cs.dropWhile isTokenChar ≠ [] := ne_nil_of_dropWhile hsign
  have hbehind : behindName (cs ++ t) = behindName cs ++ t := by
    rw [behindName, dropWhile_append_of_ne_nil hname, dropWhile_append_of_ne_nil hsign,
      drop_append_of_ne_nil hgap, dropWhile_append_of_ne_nil hvalue]
    rfl
  have hread : takeValue (behindName cs ++ t) = ((takeValue (behindName cs)).1,
      (takeValue (behindName cs)).2 ++ t) := takeValue_append h t
  simp only [takeParam_eq, hbehind, takeWhile_append_of_ne_nil hname, hread]

theorem startsParam_append (h : (cs.dropWhile isTokenChar).dropWhile isGap ≠ []) (t : List Char) :
    startsParam (cs ++ t) = startsParam cs := by
  have hname : cs.dropWhile isTokenChar ≠ [] := ne_nil_of_dropWhile h
  rw [startsParam, startsParam, takeWhile_append_of_ne_nil hname, dropWhile_append_of_ne_nil hname,
    dropWhile_append_of_ne_nil h]
  obtain ⟨c, more, hrest⟩ := List.exists_cons_of_ne_nil h
  rw [hrest, List.cons_append, List.head?_cons, List.head?_cons]

theorem sign_of_startsParam (h : startsParam cs = true) :
    ∃ more, (cs.dropWhile isTokenChar).dropWhile isGap = '=' :: more := by
  simp only [startsParam, Bool.and_eq_true, beq_iff_eq] at h
  exact List.head?_eq_some_iff.mp h.2

theorem startsParam_ne_nil (h : startsParam cs = true) :
    (cs.dropWhile isTokenChar).dropWhile isGap ≠ [] := by
  obtain ⟨more, hsign⟩ := sign_of_startsParam h
  rw [hsign]
  exact List.cons_ne_nil _ _

theorem ne_nil_of_startsParam (h : startsParam cs = true) : cs ≠ [] :=
  ne_nil_of_dropWhile (ne_nil_of_dropWhile (startsParam_ne_nil h))

def behindComma (cs : List Char) : List Char := (cs.dropWhile (· != ',')).dropWhile isSeparator

theorem stops_behindComma (cs : List Char) : Stops isGap (behindComma cs) := by
  intro c hc
  have hsep : isSeparator c = false := stops_dropWhile isSeparator _ c hc
  cases hg : isGap c with
  | false => rfl
  | true => exact absurd (isSeparator_of_isGap hg) (Bool.eq_false_iff.mp hsep)

theorem behindComma_append (h : behindComma cs ≠ []) (t : List Char) :
    behindComma (cs ++ t) = behindComma cs ++ t := by
  rw [behindComma, dropWhile_append_of_ne_nil (ne_nil_of_dropWhile h), dropWhile_append_of_ne_nil h]
  rfl

def takeMore (cs : List Char) : List (String × String) × List Char :=
  if startsParam (behindComma cs) = true then takeParams (behindComma cs)
  else ([], cs.dropWhile (· != ','))

theorem takeParams_eq (cs : List Char) : takeParams cs =
    if startsParam (cs.dropWhile isGap) = true then
      ((takeParam (cs.dropWhile isGap)).1 :: (takeMore (takeParam (cs.dropWhile isGap)).2).1,
        (takeMore (takeParam (cs.dropWhile isGap)).2).2)
    else ([], cs.dropWhile isGap) := by
  rw [takeParams]
  split
  next =>
    by_cases hn : startsParam (behindComma (takeParam (cs.dropWhile isGap)).2) = true
    · rw [takeMore, if_pos hn]
      exact if_pos hn
    · rw [takeMore, if_neg hn]
      exact if_neg hn
  next => rfl

/-- Behind the separators, the word and the gap at its start the text goes on. -/
def Firm (cs : List Char) : Prop :=
  ((cs.dropWhile isSeparator).dropWhile isTokenChar).dropWhile isGap ≠ []

theorem Firm.ne_nil (h : Firm cs) : cs ≠ [] :=
  ne_nil_of_dropWhile (ne_nil_of_dropWhile (ne_nil_of_dropWhile h))

theorem Firm.startsParam_append (h : Firm cs) (t : List Char) :
    startsParam (cs ++ t) = startsParam cs := by
  cases cs with
  | nil => exact absurd rfl h.ne_nil
  | cons c cs =>
    cases hc : isSeparator c with
    | true => simp [startsParam, (not_in_words hc).1]
    | false =>
      rw [Firm, List.dropWhile_cons_of_neg (Bool.eq_false_iff.mp hc)] at h
      exact Challenge.startsParam_append h t

theorem takeParams_append (h : Firm (takeParams cs).2) (t : List Char) :
    takeParams (cs ++ t) = ((takeParams cs).1, (takeParams cs).2 ++ t) := by
  fun_induction takeParams cs with
  | case1 cs start hs param separator next hn more ih =>
    have hnext : next ≠ [] := ne_nil_of_startsParam hn
    have hsep : separator ≠ [] := ne_nil_of_dropWhile hnext
    have hparam : param.2 ≠ [] := ne_nil_of_dropWhile hsep
    have hstart : (cs ++ t).dropWhile isGap = start ++ t :=
      dropWhile_append_of_ne_nil (ne_nil_of_startsParam hs) t
    have hcomma : behindComma (param.2 ++ t) = next ++ t := behindComma_append hnext t
    have hs' : startsParam (start ++ t) = true := by
      rw [startsParam_append (startsParam_ne_nil hs), hs]
    have hn' : startsParam (next ++ t) = true := by
      rw [startsParam_append (startsParam_ne_nil hn), hn]
    rw [takeParams_eq, hstart, if_pos hs', takeParam_append hparam, takeMore, hcomma, if_pos hn', ih h]
  | case2 cs start hs param separator next hn =>
    have hsep : separator ≠ [] := h.ne_nil
    have hparam : param.2 ≠ [] := ne_nil_of_dropWhile hsep
    have hstart : (cs ++ t).dropWhile isGap = start ++ t :=
      dropWhile_append_of_ne_nil (ne_nil_of_startsParam hs) t
    have hnext : next ≠ [] := ne_nil_of_dropWhile (ne_nil_of_dropWhile h)
    have hcomma : behindComma (param.2 ++ t) = next ++ t := behindComma_append hnext t
    have hs' : startsParam (start ++ t) = true := by
      rw [startsParam_append (startsParam_ne_nil hs), hs]
    have hn' : startsParam (next ++ t) ≠ true := by
      rw [startsParam_append h]
      exact hn
    rw [takeParams_eq, hstart, if_pos hs', takeParam_append hparam, takeMore, hcomma, if_neg hn',
      dropWhile_append_of_ne_nil hsep]
  | case3 cs start hs =>
    have hstart : (cs ++ t).dropWhile isGap = start ++ t := dropWhile_append_of_ne_nil h.ne_nil t
    have hs' : startsParam (start ++ t) ≠ true := by
      rw [h.startsParam_append]
      exact hs
    rw [takeParams_eq, hstart, if_neg hs']

def behindPayload (cs : List Char) : List Char :=
  ((cs.dropWhile isPayloadChar).dropWhile (· == '=')).dropWhile isGap

theorem behindPayload_append (h : behindPayload cs ≠ []) (t : List Char) :
    behindPayload (cs ++ t) = behindPayload cs ++ t := by
  have hsigns := ne_nil_of_dropWhile h
  have hbody := ne_nil_of_dropWhile hsigns
  rw [behindPayload, dropWhile_append_of_ne_nil hbody, dropWhile_append_of_ne_nil hsigns,
    dropWhile_append_of_ne_nil h]
  rfl

theorem takePayload_eq (cs : List Char) : takePayload cs =
    if (cs.takeWhile isPayloadChar).isEmpty then none
    else if (behindPayload cs).isEmpty || (behindPayload cs).head? == some ',' then
      some (cs.takeWhile isPayloadChar ++ (cs.dropWhile isPayloadChar).takeWhile (· == '='),
        behindPayload cs)
    else none := rfl

theorem takePayload_eq_some_iff {payload rest : List Char} :
    takePayload cs = some (payload, rest) ↔ cs.takeWhile isPayloadChar ≠ [] ∧
      (rest = [] ∨ rest.head? = some ',') ∧ behindPayload cs = rest ∧
        payload = cs.takeWhile isPayloadChar ++ (cs.dropWhile isPayloadChar).takeWhile (· == '=') := by
  rw [takePayload_eq]
  constructor
  · intro h
    split at h
    next => cases h
    next hbody =>
      split at h
      next hrest =>
        cases h
        simp only [Bool.or_eq_true, List.isEmpty_iff, beq_iff_eq] at hbody hrest
        exact ⟨hbody, hrest, rfl, rfl⟩
      next => cases h
  · rintro ⟨hbody, hrest, rfl, rfl⟩
    have hrest' : ((behindPayload cs).isEmpty || (behindPayload cs).head? == some ',') = true := by
      simpa using hrest
    rw [if_neg (by simpa using hbody), if_pos hrest']

theorem takePayload_append {payload rest : List Char} (h : takePayload cs = some (payload, rest))
    (hne : rest ≠ []) (t : List Char) : takePayload (cs ++ t) = some (payload, rest ++ t) := by
  obtain ⟨hbody, hrest, rfl, rfl⟩ := takePayload_eq_some_iff.mp h
  have hsigns := ne_nil_of_dropWhile hne
  have hdrop := ne_nil_of_dropWhile hsigns
  refine takePayload_eq_some_iff.mpr ⟨?_, .inr ?_, behindPayload_append hne t, ?_⟩
  · rwa [takeWhile_append_of_ne_nil hdrop]
  · obtain ⟨c, more, hmore⟩ := List.exists_cons_of_ne_nil hne
    rw [hmore] at hrest ⊢
    simpa using hrest
  · rw [takeWhile_append_of_ne_nil hdrop, dropWhile_append_of_ne_nil hdrop,
      takeWhile_append_of_ne_nil hsigns]

theorem takePayload_eq_none_iff : takePayload cs = none ↔
    cs.takeWhile isPayloadChar = [] ∨ ∃ c more, behindPayload cs = c :: more ∧ c ≠ ',' := by
  rw [takePayload_eq]
  cases hbody : cs.takeWhile isPayloadChar with
  | nil => simp
  | cons d body =>
    cases hrest : behindPayload cs with
    | nil => simp
    | cons c more =>
      by_cases hc : c = ',' <;> simp [hc]

theorem takeDetails_eq (scheme : String) (cs : List Char) : takeDetails scheme cs =
    match takePayload (cs.dropWhile isGap) with
    | some (payload, rest) => ({ scheme, payload := some (String.ofList payload) }, rest)
    | none => ({ scheme, params := (takeParams (cs.dropWhile isGap)).1 },
        (takeParams (cs.dropWhile isGap)).2) := rfl

theorem takeParams_gap (cs : List Char) : takeParams (cs.dropWhile isGap) = takeParams cs := by
  rw [takeParams_eq, takeParams_eq cs, (stops_dropWhile isGap cs).dropWhile_eq]

theorem ne_nil_of_takeParams (h : (takeParams cs).2 ≠ []) : cs.dropWhile isGap ≠ [] := by
  intro hnone
  refine h ?_
  rw [takeParams_eq, hnone]
  rfl

/-! ## What is left -/

theorem takeQuoted_suffix (cs : List Char) : (takeQuoted cs).2 <:+ cs := by
  fun_induction takeQuoted cs with
  | case1 => exact List.suffix_refl _
  | case2 rest => exact List.suffix_cons _ _
  | case3 => exact List.nil_suffix
  | case4 c rest read ih => exact (ih.trans (List.suffix_cons _ _)).trans (List.suffix_cons _ _)
  | case5 c rest hquote hlast hescape read ih => exact ih.trans (List.suffix_cons _ _)

theorem takeValue_suffix (cs : List Char) : (takeValue cs).2 <:+ cs := by
  unfold takeValue
  split
  next => exact (takeQuoted_suffix _).trans (List.suffix_cons _ _)
  next => exact List.dropWhile_suffix _

theorem behindName_suffix (cs : List Char) : behindName cs <:+ cs :=
  ((List.dropWhile_suffix _).trans (List.drop_suffix _ _)).trans
    ((List.dropWhile_suffix _).trans (List.dropWhile_suffix _))

theorem takeParam_suffix (cs : List Char) : (takeParam cs).2 <:+ cs :=
  (takeValue_suffix _).trans (behindName_suffix cs)

theorem takeParams_suffix (cs : List Char) : (takeParams cs).2 <:+ cs.dropWhile isGap := by
  fun_induction takeParams cs with
  | case1 cs start hs param separator next hn more ih =>
    have hnext : next <:+ start :=
      ((List.dropWhile_suffix _).trans (List.dropWhile_suffix _)).trans (takeParam_suffix start)
    exact (ih.trans (List.dropWhile_suffix _)).trans hnext
  | case2 cs start hs param separator next hn =>
    exact (List.dropWhile_suffix _).trans (takeParam_suffix start)
  | case3 => exact List.suffix_refl _

theorem behindPayload_suffix (cs : List Char) : behindPayload cs <:+ cs :=
  ((List.dropWhile_suffix _).trans (List.dropWhile_suffix _)).trans (List.dropWhile_suffix _)

theorem readChars_eq (cs : List Char) : readChars cs =
    match cs.dropWhile isSeparator with
    | [] => []
    | c :: rest =>
      if ((c :: rest).takeWhile isTokenChar).isEmpty = true then readChars rest
      else
        let read := takeDetails (String.ofList ((c :: rest).takeWhile isTokenChar))
          ((c :: rest).dropWhile isTokenChar)
        read.1 :: readChars read.2 := by
  cases hdrop : cs.dropWhile isSeparator with
  | nil => exact readChars_of_nil hdrop
  | cons c rest =>
    rw [readChars]
    split
    next heq => cases hdrop.symm.trans heq
    next d rest' heq =>
      obtain ⟨rfl, rfl⟩ := List.cons.inj (hdrop.symm.trans heq)
      rfl

theorem readChars_skip {c : Char} (hc : isTokenChar c = false) (cs : List Char) :
    readChars (c :: cs) = readChars cs := by
  rw [readChars_eq (c :: cs)]
  cases hs : isSeparator c with
  | true => rw [List.dropWhile_cons_of_pos hs, ← readChars_eq]
  | false =>
    rw [List.dropWhile_cons_of_neg (Bool.eq_false_iff.mp hs)]
    simp [hc]

end BearerTokens.Challenge
