import BearerTokens.Proofs.Challenge.Openings

/-! # Where a quote leads

Behind a front that opens a value a quote begins that value.  Anywhere else it is no quote to the reader: it is
dropped between challenges, or it stands in what is passed over up to the next comma.  Then what follows it
is read like the header itself.
-/

namespace BearerTokens.Challenge

open Http (isTokenChar)

variable {cs : List Char}

theorem stops_quote {p : Char → Bool} (hp : p '"' = false) (x : List Char) : Stops p ('"' :: x) :=
  stops_cons.mpr hp

theorem startsParam_quote (cs x : List Char) : startsParam (cs ++ '"' :: x) = startsParam cs := by
  have hname := stops_quote (p := isTokenChar) (by decide) x
  have hgap := stops_quote (p := isGap) (by decide) x
  rw [startsParam, startsParam, hname.takeWhile_append, hname.dropWhile_append, hgap.dropWhile_append]
  cases (cs.dropWhile isTokenChar).dropWhile isGap with
  | nil => simp
  | cons c more => simp

theorem behindPayload_quote (cs x : List Char) :
    behindPayload (cs ++ '"' :: x) = behindPayload cs ++ '"' :: x := by
  have hbody := stops_quote (p := isPayloadChar) (by decide) x
  have hsigns := stops_quote (p := (· == '=')) (by decide) x
  have hgap := stops_quote (p := isGap) (by decide) x
  rw [behindPayload, hbody.dropWhile_append, hsigns.dropWhile_append, hgap.dropWhile_append]
  rfl

theorem takePayload_quote (cs x : List Char) :
    takePayload (cs ++ '"' :: x) = none ↔ takePayload (cs ++ ['"']) = none := by
  have hbody (y : List Char) : (cs ++ '"' :: y).takeWhile isPayloadChar = cs.takeWhile isPayloadChar :=
    (stops_quote (by decide) y).takeWhile_append cs
  rw [takePayload_eq_none_iff, takePayload_eq_none_iff, hbody, hbody, behindPayload_quote,
    behindPayload_quote]
  cases behindPayload cs with
  | nil => simp
  | cons c more => simp

theorem takePayload_before (h : takePayload (cs ++ ['"']) ≠ none) :
    ∃ payload rest, takePayload cs = some (payload, rest) ∧ rest ≠ [] := by
  obtain ⟨⟨payload, left⟩, hp⟩ := Option.ne_none_iff_exists'.mp h
  obtain ⟨hbody, hleft, hbehind, -⟩ := takePayload_eq_some_iff.mp hp
  rw [(stops_quote (by decide) []).takeWhile_append] at hbody
  rw [behindPayload_quote] at hbehind
  cases hrest : behindPayload cs with
  | nil =>
    rw [hrest] at hbehind
    subst hbehind
    simp at hleft
  | cons c more =>
    rw [hrest] at hbehind
    subst hbehind
    -- a payload is over at a comma, which then stands before the quote
    have hcomma : c = ',' := by simpa using hleft
    refine ⟨_, c :: more, takePayload_eq_some_iff.mpr ⟨hbody, .inr ?_, hrest, rfl⟩, List.cons_ne_nil _ _⟩
    rw [hcomma]
    rfl

def Unescaped (cs : List Char) : Prop := cs.getLast? ≠ some '\\'

theorem Unescaped.of_suffix {rest : List Char} (h : Unescaped cs) (hs : rest <:+ cs) :
    Unescaped rest := by
  obtain ⟨first, rfl⟩ := hs
  intro hlast
  refine h ?_
  rw [List.getLast?_append, hlast]
  rfl

/-- A quoted value is over, or is closed by the quote. -/
theorem takeQuoted_quote (h : Unescaped cs) :
    (∀ t, takeQuoted (cs ++ t) = ((takeQuoted cs).1, (takeQuoted cs).2 ++ t)) ∨
      ∀ x, (takeQuoted (cs ++ '"' :: x)).2 = x := by
  fun_induction takeQuoted cs with
  | case1 =>
    right
    intro x
    rfl
  | case2 rest =>
    left
    intro t
    simp [takeQuoted]
  | case3 =>
    -- the text would end in a backslash
    exact absurd rfl h
  | case4 c rest read ih =>
    have hrest : Unescaped rest :=
      h.of_suffix ((List.suffix_cons _ _).trans (List.suffix_cons _ _))
    rcases ih hrest with ih | ih
    · left
      intro t
      simp [takeQuoted, read, ih t]
    · right
      intro x
      simp [takeQuoted, ih x]
  | case5 c rest hquote hlast hescape read ih =>
    have hb : c ≠ '\\' := by
      rintro rfl
      cases rest with
      | nil => exact hlast rfl rfl
      | cons d rest => exact hescape d rest rfl rfl
    rcases ih (h.of_suffix (List.suffix_cons _ _)) with ih | ih
    · left
      intro t
      rw [List.cons_append, takeQuoted_plain hquote hb, ih t]
    · right
      intro x
      rw [List.cons_append, takeQuoted_plain hquote hb, ih x]

theorem dropWhile_bare (cs : List Char) :
    (cs.dropWhile isBareChar).dropWhile (· != ',') = cs.dropWhile (· != ',') := by
  induction cs with
  | nil => rfl
  | cons c cs ih =>
    cases hc : isBareChar c with
    | false => rw [List.dropWhile_cons_of_neg (Bool.eq_false_iff.mp hc)]
    | true =>
      have hcomma : (c != ',') = true := by
        simp only [isBareChar, Bool.and_eq_true] at hc
        exact hc.1
      rw [List.dropWhile_cons_of_pos hc, List.dropWhile_cons_of_pos (p := (· != ',')) hcomma, ih]

/-- A value that has begun is over before the quote, or the quote is passed over with it. -/
theorem takeValue_quote (hne : cs ≠ []) (h : Unescaped cs) :
    (∀ x, takeValue (cs ++ '"' :: x) = ((takeValue cs).1, (takeValue cs).2 ++ '"' :: x)) ∨
      ∀ x, (takeValue (cs ++ '"' :: x)).2.dropWhile (· != ',') = x.dropWhile (· != ',') := by
  cases cs with
  | nil => exact absurd rfl hne
  | cons c cs =>
    by_cases hq : c = '"'
    · subst hq
      rcases takeQuoted_quote (h.of_suffix (List.suffix_cons _ _)) with hover | hclosed
      · left
        intro x
        exact hover _
      · right
        intro x
        exact congrArg (List.dropWhile (· != ',')) (hclosed x)
    · by_cases hover : (c :: cs).dropWhile isBareChar = []
      · -- a bare value goes on through the quote up to a comma or a gap
        right
        intro x
        have hall : ∀ d ∈ c :: cs, (d != ',') = true := by
          intro d hd
          have hbare := List.dropWhile_eq_nil_iff.mp hover d hd
          simp only [isBareChar, Bool.and_eq_true] at hbare
          exact hbare.1
        rw [List.cons_append, takeValue_plain hq, dropWhile_bare, ← List.cons_append,
          List.dropWhile_append_of_pos hall]
        exact List.dropWhile_cons_of_pos (p := (· != ',')) (by decide)
      · left
        intro x
        have hleft : (takeValue (c :: cs)).2 ≠ [] := by
          rw [takeValue_plain hq]
          exact hover
        exact takeValue_append hleft _

theorem exists_named (hs : startsParam cs = true) (hv : behindName cs = []) :
    ∃ name before after, Word name ∧ Gap before ∧ Gap after ∧
      cs = name ++ (before ++ '=' :: after) := by
  obtain ⟨after, hsign⟩ := sign_of_startsParam hs
  have hname : cs.takeWhile isTokenChar ≠ [] := by
    simp only [startsParam, Bool.and_eq_true, Bool.not_eq_true'] at hs
    intro hnone
    rw [hnone] at hs
    cases hs.1
  rw [behindName, hsign, List.drop_one, List.tail_cons] at hv
  refine ⟨cs.takeWhile isTokenChar, (cs.dropWhile isTokenChar).takeWhile isGap, after, ⟨hname, ?_⟩, ?_,
    List.dropWhile_eq_nil_iff.mp hv, ?_⟩
  · intro c hc
    exact List.mem_takeWhile_imp hc
  · intro c hc
    exact List.mem_takeWhile_imp hc
  · rw [← hsign, List.takeWhile_append_dropWhile, List.takeWhile_append_dropWhile]

theorem behindName_quote (hs : startsParam cs = true) (x : List Char) :
    behindName (cs ++ '"' :: x) = behindName cs ++ '"' :: x := by
  have hname := stops_quote (p := isTokenChar) (by decide) x
  have hgap := stops_quote (p := isGap) (by decide) x
  obtain ⟨after, hsign⟩ := sign_of_startsParam hs
  rw [behindName, behindName, hname.dropWhile_append, hgap.dropWhile_append, hsign, List.cons_append,
    List.drop_one, List.drop_one, List.tail_cons, List.tail_cons, hgap.dropWhile_append]

/-- A parameter takes its value from the quote on, is over before, or the quote is passed over with it. -/
theorem takeParam_quote (hs : startsParam cs = true) (h : Unescaped cs) :
    (∃ name before after, Word name ∧ Gap before ∧ Gap after ∧
        cs = name ++ (before ++ '=' :: after)) ∨
      (∀ x, takeParam (cs ++ '"' :: x) = ((takeParam cs).1, (takeParam cs).2 ++ '"' :: x)) ∨
      ∀ x, (takeParam (cs ++ '"' :: x)).2.dropWhile (· != ',') = x.dropWhile (· != ',') := by
  by_cases hv : behindName cs = []
  · exact .inl (exists_named hs hv)
  right
  have hname (x : List Char) : (cs ++ '"' :: x).takeWhile isTokenChar = cs.takeWhile isTokenChar :=
    (stops_quote (by decide) x).takeWhile_append cs
  rcases takeValue_quote hv (h.of_suffix (behindName_suffix cs)) with hover | hpassed
  · left
    intro x
    rw [takeParam_eq, takeParam_eq, hname, behindName_quote hs, hover x]
  · right
    intro x
    rw [takeParam_eq, behindName_quote hs]
    exact hpassed x

theorem takeMore_congr {x y : List Char} (h : x.dropWhile (· != ',') = y.dropWhile (· != ',')) :
    takeMore x = takeMore y := by
  rw [takeMore, takeMore, behindComma, behindComma, h]

/-- The reader of parameters comes to a value at a quote, leaves the rest before it, or passes over it up to
the next comma. -/
def ParamsMeetQuote (cs : List Char) : Prop := ParamsOpen cs ∨
  (∀ x, takeParams (cs ++ '"' :: x) = ((takeParams cs).1, (takeParams cs).2 ++ '"' :: x)) ∨
    ∀ x, (takeParams (cs ++ '"' :: x)).2 = (takeMore x).2

theorem takeMore_quote
    (hmeets : startsParam (behindComma cs) = true → ParamsMeetQuote (behindComma cs)) :
    ParamsOpen (behindComma cs) ∨
      (∀ x, takeMore (cs ++ '"' :: x) = ((takeMore cs).1, (takeMore cs).2 ++ '"' :: x)) ∨
        ∀ x, (takeMore (cs ++ '"' :: x)).2 = (takeMore x).2 := by
  by_cases hcomma : cs.dropWhile (· != ',') = []
  · -- the reader looks for a comma and does not heed the quote
    right; right
    intro x
    have hall := List.dropWhile_eq_nil_iff.mp hcomma
    refine congrArg Prod.snd (takeMore_congr ?_)
    rw [List.dropWhile_append_of_pos hall]
    exact List.dropWhile_cons_of_pos (p := (· != ',')) (by decide)
  have hbehind (x : List Char) : behindComma (cs ++ '"' :: x) = behindComma cs ++ '"' :: x := by
    rw [behindComma, dropWhile_append_of_ne_nil hcomma,
      (stops_quote (p := isSeparator) (by decide) x).dropWhile_append]
    rfl
  by_cases hn : startsParam (behindComma cs) = true
  · have hn' (x : List Char) : startsParam (behindComma cs ++ '"' :: x) = true := by
      rw [startsParam_quote, hn]
    rcases hmeets hn with hopen | hover | hpassed
    · exact .inl hopen
    · right; left
      intro x
      rw [takeMore, takeMore, hbehind, if_pos (hn' x), if_pos hn, hover x]
    · right; right
      intro x
      rw [takeMore, hbehind, if_pos (hn' x), hpassed x]
  · right; left
    intro x
    have hn' : ¬ startsParam (behindComma cs ++ '"' :: x) = true := by rwa [startsParam_quote]
    rw [takeMore, takeMore, hbehind, if_neg hn', if_neg hn, dropWhile_append_of_ne_nil hcomma]

theorem paramsMeetQuote_param (hs : startsParam (cs.dropWhile isGap) = true) (h : Unescaped cs)
    (hmeets : startsParam (behindComma (takeParam (cs.dropWhile isGap)).2) = true →
      ParamsMeetQuote (behindComma (takeParam (cs.dropWhile isGap)).2)) : ParamsMeetQuote cs := by
  have hstart (x : List Char) : (cs ++ '"' :: x).dropWhile isGap = cs.dropWhile isGap ++ '"' :: x :=
    (stops_quote (by decide) x).dropWhile_append cs
  have hs' (x : List Char) : startsParam (cs.dropWhile isGap ++ '"' :: x) = true := by
    rw [startsParam_quote, hs]
  rcases takeParam_quote hs (h.of_suffix (List.dropWhile_suffix _)) with
    ⟨name, before, after, hname, hb, ha, htext⟩ | hover | hpassed
  · left
    have hgap : Gap (cs.takeWhile isGap) := fun c hc => List.mem_takeWhile_imp hc
    have hcs : cs = cs.takeWhile isGap ++ (name ++ (before ++ '=' :: after)) := by
      rw [← htext, List.takeWhile_append_dropWhile]
    rw [hcs]
    exact .here hgap hname hb ha
  · rcases takeMore_quote hmeets with hopen | hmore | hmore
    · exact .inl (.next hs hopen)
    · right; left
      intro x
      rw [takeParams_eq, takeParams_eq cs, hstart, if_pos (hs' x), if_pos hs, hover x, hmore x]
    · right; right
      intro x
      rw [takeParams_eq, hstart, if_pos (hs' x), hover x, ← hmore x]
  · right; right
    intro x
    rw [takeParams_eq, hstart, if_pos (hs' x), takeMore_congr (hpassed x)]

theorem paramsMeetQuote (h : Unescaped cs) : ParamsMeetQuote cs := by
  fun_induction takeParams cs with
  | case1 cs start hs param separator next hn more ih =>
    have hnext : next <:+ cs := ((List.dropWhile_suffix _).trans (List.dropWhile_suffix _)).trans
      ((takeParam_suffix start).trans (List.dropWhile_suffix _))
    exact paramsMeetQuote_param hs h fun _ => ih (h.of_suffix hnext)
  | case2 cs start hs param separator next hn => exact paramsMeetQuote_param hs h fun hn' => absurd hn' hn
  | case3 cs start hs =>
    right; left
    intro x
    have hstart : (cs ++ '"' :: x).dropWhile isGap = start ++ '"' :: x :=
      (stops_quote (by decide) x).dropWhile_append cs
    have hs' : ¬ startsParam (start ++ '"' :: x) = true := by rwa [startsParam_quote]
    have hleft : takeParams cs = ([], start) := by rw [takeParams_eq, if_neg hs]
    rw [takeParams_eq, hstart, if_neg hs', hleft]

/-- The reader of a header comes to a value at a quote, or drops the quote and goes on behind it, or passes
over it and goes on behind the next comma. -/
def MeetsQuote (cs : List Char) : Prop := Opens cs ∨
  (∃ before, ∀ x, readChars (cs ++ '"' :: x) = before ++ readChars x) ∨
    ∃ before, ∀ x, ∃ c, readChars (cs ++ '"' :: x) = before ++ c :: readChars (takeMore x).2

/-- What is read before the rest of a text does not matter for where the quote leads. -/
theorem MeetsQuote.of_rest {rest : List Char} (h : MeetsQuote rest) (first : List Challenge)
    (hopens : Opens rest → Opens cs)
    (hread : ∀ x, readChars (cs ++ '"' :: x) = first ++ readChars (rest ++ '"' :: x)) :
    MeetsQuote cs := by
  rcases h with hopen | ⟨before, hbefore⟩ | ⟨before, hbefore⟩
  · exact .inl (hopens hopen)
  · refine .inr (.inl ⟨first ++ before, fun x => ?_⟩)
    rw [hread, hbefore, List.append_assoc]
  · refine .inr (.inr ⟨first ++ before, fun x => ?_⟩)
    obtain ⟨c, hc⟩ := hbefore x
    exact ⟨c, by rw [hread, hc, List.append_assoc]⟩

theorem meetsQuote_scheme {scheme tail : List Char} (hs : Word scheme) (ht : Stops isTokenChar tail)
    (h : Unescaped tail)
    (hrest : ∀ rest, rest <:+ tail → MeetsQuote rest) : MeetsQuote (scheme ++ tail) := by
  have htail (x : List Char) : Stops isTokenChar (tail ++ '"' :: x) := by
    cases tail with
    | nil => exact stops_quote (by decide) x
    | cons c tail => exact ht.append (List.cons_ne_nil _ _)
  have hstart (x : List Char) : (tail ++ '"' :: x).dropWhile isGap =
      tail.dropWhile isGap ++ '"' :: x := (stops_quote (by decide) x).dropWhile_append tail
  by_cases hp : takePayload (tail.dropWhile isGap ++ ['"']) = none
  · have hread (x : List Char) : readChars (scheme ++ tail ++ '"' :: x) =
        { scheme := String.ofList scheme, params := (takeParams (tail ++ '"' :: x)).1 } ::
          readChars (takeParams (tail ++ '"' :: x)).2 := by
      rw [List.append_assoc]
      refine readChars_params hs (htail x) ?_
      rw [hstart, takePayload_quote, hp]
    rcases paramsMeetQuote h with hopen | hover | hpassed
    -- a value at the quote, parameters that are over before it, or a quote that was passed over
    · exact .inl (.params hs ht hp hopen)
    · have hsuffix : (takeParams tail).2 <:+ tail :=
        (takeParams_suffix tail).trans (List.dropWhile_suffix _)
      refine (hrest _ hsuffix).of_rest [{ scheme := String.ofList scheme, params := (takeParams tail).1 }]
        (.passed hs ht hp) fun x => ?_
      rw [hread, hover]
      rfl
    · refine .inr (.inr ⟨[], fun x => ?_⟩)
      refine ⟨{ scheme := String.ofList scheme, params := (takeParams (tail ++ '"' :: x)).1 }, ?_⟩
      rw [hread, hpassed]
      rfl
  · obtain ⟨payload, rest, hfound, hne⟩ := takePayload_before hp
    obtain ⟨-, -, hbehind, -⟩ := takePayload_eq_some_iff.mp hfound
    have hsuffix : rest <:+ tail :=
      hbehind ▸ (behindPayload_suffix _).trans (List.dropWhile_suffix _)
    refine (hrest rest hsuffix).of_rest
      [{ scheme := String.ofList scheme, payload := some (String.ofList payload) }]
      (.payload hs ht hfound) fun x => ?_
    rw [List.append_assoc, readChars_scheme hs (htail x), takeDetails_eq, hstart,
      takePayload_append hfound hne]
    rfl

theorem meetsQuote (h : Unescaped cs) : MeetsQuote cs := by
  -- the reader goes on at a suffix of what is left behind the scheme, so the induction is on the length
  induction hn : cs.length using Nat.strong_induction_on generalizing cs with
  | _ n ih =>
  subst hn
  cases cs with
  | nil => exact .inr (.inl ⟨[], readChars_skip (by decide)⟩)
  | cons c rest =>
    cases hc : isTokenChar c with
    | false =>
      have hrest := ih rest.length (by simp) (h.of_suffix (List.suffix_cons _ _)) rfl
      exact hrest.of_rest [] (.skip hc) fun x => readChars_skip hc _
    | true =>
      have hword : Word ((c :: rest).takeWhile isTokenChar) := by
        rw [List.takeWhile_cons_of_pos hc]
        refine ⟨List.cons_ne_nil _ _, fun d hd => ?_⟩
        rw [← List.takeWhile_cons_of_pos hc] at hd
        exact List.mem_takeWhile_imp hd
      have hdrop : (c :: rest).dropWhile isTokenChar <:+ rest := by
        rw [List.dropWhile_cons_of_pos hc]
        exact List.dropWhile_suffix _
      rw [← List.takeWhile_append_dropWhile (p := isTokenChar) (l := c :: rest)]
      refine meetsQuote_scheme hword (stops_dropWhile _ _) (h.of_suffix (List.dropWhile_suffix _)) ?_
      intro left hleft
      have hsuffix : left <:+ rest := hleft.trans hdrop
      have hshort : left.length < (c :: rest).length := Nat.lt_succ_of_le hsuffix.length_le
      exact ih left.length hshort (h.of_suffix (hsuffix.trans (List.suffix_cons _ _))) rfl

/-- Where the front opens no value, a comma and a letter in quotes make one challenge more than nothing in
quotes. -/
theorem length_of_not_opens (h : Unescaped cs) (ho : ¬ Opens cs) :
    (readChars (cs ++ '"' :: [',', 'a', '"'])).length =
      (readChars (cs ++ '"' :: ['"'])).length + 1 := by
  have hnone : readChars ['"'] = [] := by
    rw [readChars_skip (by decide)]
    exact readChars_of_nil rfl
  have hone : readChars [',', 'a', '"'] = [{ scheme := "a" }] := by decide +kernel
  rcases meetsQuote h with hopen | ⟨before, hbefore⟩ | ⟨before, hbefore⟩
  · exact absurd hopen ho
  · rw [hbefore, hbefore, hnone, hone]
    simp
  · have hleft : (takeMore ['"']).2 = [] := rfl
    have hleft' : (takeMore [',', 'a', '"']).2 = [',', 'a', '"'] := rfl
    obtain ⟨c, hc⟩ := hbefore ['"']
    obtain ⟨d, hd⟩ := hbefore [',', 'a', '"']
    rw [hc, hd, hleft, hleft', hone, readChars_of_nil rfl]
    simp

end BearerTokens.Challenge
