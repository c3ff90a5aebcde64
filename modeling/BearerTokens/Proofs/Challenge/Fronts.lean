import BearerTokens.Proofs.Challenge.Quotes

/-! # Fronts of written headers

In a text written by the grammar every quote outside of quoted text begins a value.  So each front of such a
text that ends before one opens a value: the reader and the grammar agree where quoted text stands, as long
as the header keeps to the grammar up to there.
-/

namespace BearerTokens.Challenge

open Http (isTokenChar)

inductive Quoting where
  | outside
  | inside
  | escaped
deriving DecidableEq

def Quoting.next : Quoting → Char → Quoting
  | .outside, c => if c = '"' then .inside else .outside
  | .inside, c => if c = '"' then .outside else if c = '\\' then .escaped else .inside
  | .escaped, _ => .inside

def Outside (cs : List Char) : Prop := cs.foldl Quoting.next .outside = .outside

instance (cs : List Char) : Decidable (Outside cs) := inferInstanceAs (Decidable (_ = _))

variable {cs front x y rest text : List Char}

theorem Outside.append_iff (h : Outside x) (y : List Char) : Outside (x ++ y) ↔ Outside y := by
  rw [Outside, List.foldl_append, h, Outside]

theorem outside_of_not_mem (h : '"' ∉ cs) : Outside cs := by
  induction cs with
  | nil => rfl
  | cons c cs ih =>
    have hc : c ≠ '"' := by
      rintro rfl
      exact h List.mem_cons_self
    have hnext : Quoting.next .outside c = .outside := if_neg hc
    rw [Outside, List.foldl_cons, hnext]
    exact ih fun hmem => h (List.mem_cons_of_mem _ hmem)

/-- The quote stands in one part of a text or in the other. -/
theorem split_quote (h : x ++ y = front ++ '"' :: rest) :
    (∃ more, x = front ++ '"' :: more) ∨ ∃ behind, front = x ++ behind ∧ y = behind ++ '"' :: rest := by
  rcases List.append_eq_append_iff.mp h with ⟨behind, hfront, hy⟩ | ⟨behind, hx, hrest⟩
  · exact .inr ⟨behind, hfront, hy⟩
  · cases behind with
    | nil => exact .inr ⟨[], by simpa using hx.symm, by simpa using hrest.symm⟩
    | cons c behind =>
      obtain ⟨rfl, -⟩ := List.cons.inj hrest
      exact .inl ⟨behind, hx⟩

theorem split_of_not_mem (hx : '"' ∉ x) (h : x ++ y = front ++ '"' :: rest) :
    ∃ behind, front = x ++ behind ∧ y = behind ++ '"' :: rest := by
  rcases split_quote h with ⟨more, rfl⟩ | hbehind
  · exact absurd (List.mem_append_right _ List.mem_cons_self) hx
  · exact hbehind

/-! ## Parts without quotes -/

theorem quote_not_mem {p : Char → Bool} (hp : p '"' = false) (h : ∀ c ∈ cs, p c = true) : '"' ∉ cs := by
  intro hmem
  exact absurd (h '"' hmem) (Bool.eq_false_iff.mp hp)

theorem Word.quote_not_mem (h : Word cs) : '"' ∉ cs := Challenge.quote_not_mem (by decide) h.2

theorem Gap.quote_not_mem (h : Gap cs) : '"' ∉ cs := Challenge.quote_not_mem (by decide) h

theorem Separators.quote_not_mem (h : Separators cs) : '"' ∉ cs :=
  Challenge.quote_not_mem (by decide) h

theorem Payload.quote_not_mem (h : Payload cs) : '"' ∉ cs := by
  obtain ⟨-, hb, hc⟩ := h
  intro hmem
  rcases List.mem_append.mp hmem with hmem | hmem
  · exact absurd (hb '"' hmem) (by decide)
  · exact absurd (hc '"' hmem) (by decide)

theorem quote_not_mem_named {name before after : List Char} (hn : Word name) (hb : Gap before)
    (ha : Gap after) : '"' ∉ name ++ (before ++ '=' :: after) := by
  simp [hn.quote_not_mem, hb.quote_not_mem, ha.quote_not_mem]

/-! ## Values and parameters -/

theorem foldl_quotes {value : List Char} (h : Quotes value text) :
    text.foldl Quoting.next .inside = .inside := by
  induction h with
  | nil => rfl
  | plain hq hb _ ih => simpa [Quoting.next, hq, hb] using ih
  | escaped _ ih => simpa [Quoting.next] using ih

/-- Up to its closing quote a quoted text is inside. -/
theorem foldl_front_quotes {value : List Char} {c : Char} (h : Quotes value text)
    (hfront : text ++ ['"'] = front ++ c :: rest) : front.foldl Quoting.next .inside ≠ .outside := by
  induction h generalizing front with
  | nil =>
    cases front with
    | nil => decide
    | cons d front => simp at hfront
  | @plain d value text hq hb _ ih =>
    cases front with
    | nil => decide
    | cons e front =>
      obtain ⟨rfl, hmore⟩ := List.cons.inj hfront
      simpa [Quoting.next, hq, hb] using ih hmore
  | @escaped d value text _ ih =>
    cases front with
    | nil => decide
    | cons e front =>
      -- behind the backslash the front may be over, so the escaped character is split off as well
      obtain ⟨he, hescape⟩ := List.cons.inj hfront
      subst he
      cases front with
      | nil => decide
      | cons f front =>
        obtain ⟨-, hmore⟩ := List.cons.inj hescape
        simpa [Quoting.next] using ih hmore

theorem WritesValue.outside {value : List Char} (h : WritesValue value text) : Outside text := by
  cases h with
  | quoted h =>
    rw [Outside, List.foldl_cons, List.foldl_append]
    have hopen : Quoting.next .outside '"' = .inside := rfl
    rw [hopen, foldl_quotes h]
    rfl
  | bare h => exact outside_of_not_mem h.quote_not_mem

/-- The only quote of a value outside of its text is the opening one. -/
theorem WritesValue.begins {value : List Char} (h : WritesValue value text) (ho : Outside front)
    (hfront : text = front ++ '"' :: rest) : front = [] := by
  cases h with
  | quoted h =>
    cases front with
    | nil => rfl
    | cons c front =>
      obtain ⟨rfl, htext⟩ := List.cons.inj hfront
      exact absurd ho (foldl_front_quotes h htext)
  | bare h =>
    refine absurd ?_ h.quote_not_mem
    rw [hfront]
    exact List.mem_append_right _ List.mem_cons_self

variable {param : String × String} {params : List (String × String)}

theorem WritesParam.outside (h : WritesParam param text) : Outside text := by
  obtain @⟨name, value, before, after, vtext, hn, hb, ha, hv⟩ := h
  have hnone := quote_not_mem_named hn hb ha
  have htext : name.toList ++ (before ++ '=' :: (after ++ vtext)) =
      name.toList ++ (before ++ '=' :: after) ++ vtext := by simp
  rw [htext, (outside_of_not_mem hnone).append_iff]
  exact hv.outside

theorem WritesParam.opens (h : WritesParam param text) (ho : Outside front)
    (hfront : text = front ++ '"' :: rest) : ParamsOpen front := by
  obtain @⟨name, value, before, after, vtext, hn, hb, ha, hv⟩ := h
  have hnone := quote_not_mem_named hn hb ha
  have htext : name.toList ++ (before ++ '=' :: after) ++ vtext = front ++ '"' :: rest := by
    simpa using hfront
  obtain ⟨behind, rfl, hvalue⟩ := split_of_not_mem hnone htext
  rw [(outside_of_not_mem hnone).append_iff] at ho
  have hbehind : behind = [] := hv.begins ho hvalue
  have hgap : Gap [] := by simp [Gap]
  have hopen := ParamsOpen.here hgap hn hb ha
  rwa [hbehind, List.append_nil]

theorem WritesParams.outside (h : WritesParams params text) : Outside text := by
  induction h with
  | one h => exact h.outside
  | @cons _ _ text pad between rest h hp hs _ ih =>
    have hnone : '"' ∉ pad ++ ',' :: between := by
      simp [(isSeparator_pad hp).quote_not_mem, hs.quote_not_mem]
    have htext : pad ++ ',' :: (between ++ rest) = pad ++ ',' :: between ++ rest := by simp
    rw [h.outside.append_iff, htext, (outside_of_not_mem hnone).append_iff]
    exact ih

theorem stops_front {p : Char → Bool} (h : Stops p (x ++ y)) : Stops p x := by
  cases x with
  | nil => exact stops_nil p
  | cons c x => exact stops_cons.mpr (stops_cons.mp h)

theorem ends_front (h : Ends (x ++ y)) : Ends x := by
  cases x with
  | nil => simp [Ends]
  | cons c x => exact h

theorem WritesParams.opens (h : WritesParams params text) (ho : Outside front)
    (hfront : text = front ++ '"' :: rest) : ParamsOpen front := by
  induction h generalizing front with
  | one h => exact h.opens ho hfront
  | @cons param params text pad between more h hp hs hr ih =>
    rcases split_quote hfront with ⟨tail, htext⟩ | ⟨behind, rfl, hbehind⟩
    · exact h.opens ho htext
    · have hnone : '"' ∉ pad ++ ',' :: between := by
        simp [(isSeparator_pad hp).quote_not_mem, hs.quote_not_mem]
      have hbehind' : pad ++ ',' :: between ++ more = behind ++ '"' :: rest := by simpa using hbehind
      obtain ⟨left, rfl, hmore⟩ := split_of_not_mem hnone hbehind'
      rw [h.outside.append_iff, (outside_of_not_mem hnone).append_iff] at ho
      -- the front ends within a later parameter, so the reader takes this one and its comma as a whole
      have hleft : Stops isSeparator left := by
        have hmore' : Stops isSeparator (more ++ []) := hr.stops fun _ => not_isSeparator
        rw [List.append_nil, hmore] at hmore'
        exact stops_front hmore'
      have hcomma : Ends (',' :: (between ++ left)) := ends_cons _
      have hparts : pad ++ ',' :: between ++ left = pad ++ ',' :: (between ++ left) := by simp
      have hbare : Stops isBareChar (pad ++ ',' :: (between ++ left)) :=
        stops_pad (isSeparator_pad hp) hcomma fun _ => isBareChar_of_isSeparator
      have hnext : behindComma (pad ++ ',' :: (between ++ left)) = left := by
        rw [behindComma, dropWhile_pad hp hcomma,
          List.dropWhile_cons_of_pos (p := isSeparator) (by decide)]
        exact dropWhile_run hs hleft
      have hstart : (text ++ (pad ++ ',' :: (between ++ left))).dropWhile isGap =
          text ++ (pad ++ ',' :: (between ++ left)) := (h.stops fun _ => not_isGap).dropWhile_eq
      rw [hparts]
      refine .next ?_ ?_
      · rw [hstart]
        exact startsParam_writes h
      · rw [hstart, takeParam_writes h hbare, hnext]
        exact ih ho hmore

/-! ## Challenges -/

theorem ParamsOpen.gap {gap : List Char} (hg : Gap gap) (h : ParamsOpen cs) : ParamsOpen (gap ++ cs) := by
  cases h with
  | here hg' hn hb ha =>
    rw [← List.append_assoc]
    refine .here ?_ hn hb ha
    intro c hc
    rcases List.mem_append.mp hc with hc | hc
    · exact hg c hc
    · exact hg' c hc
  | next hs h =>
    have hstart : (gap ++ cs).dropWhile isGap = cs.dropWhile isGap :=
      List.dropWhile_append_of_pos hg
    rw [← hstart] at hs h
    exact .next hs h

theorem WritesChallenge.outside {c : Challenge} (h : WritesChallenge c text) : Outside text := by
  cases h with
  | alone hs => exact outside_of_not_mem hs.quote_not_mem
  | payload hs hne hg h =>
    refine outside_of_not_mem ?_
    simp [hs.quote_not_mem, hg.quote_not_mem, h.quote_not_mem]
  | params hs hne hg h =>
    rw [(outside_of_not_mem hs.quote_not_mem).append_iff,
      (outside_of_not_mem hg.quote_not_mem).append_iff]
    exact h.outside

/-- A quote in a challenge is within its parameters. -/
theorem WritesChallenge.opens {c : Challenge} (h : WritesChallenge c text) (ho : Outside front)
    (hfront : text = front ++ '"' :: rest) : Opens front := by
  have hmem : '"' ∈ text := by
    rw [hfront]
    exact List.mem_append_right _ List.mem_cons_self
  cases h with
  | alone hs => exact absurd hmem hs.quote_not_mem
  | payload hs hne hg h =>
    simp [hs.quote_not_mem, hg.quote_not_mem, h.quote_not_mem] at hmem
  | @params scheme params gap text hs hne hg h =>
    obtain ⟨tail, rfl, htail⟩ := split_of_not_mem hs.quote_not_mem hfront
    obtain ⟨left, rfl, htext⟩ := split_of_not_mem hg.quote_not_mem htail
    rw [(outside_of_not_mem hs.quote_not_mem).append_iff,
      (outside_of_not_mem hg.quote_not_mem).append_iff] at ho
    have hstop : Stops isGap left := by
      have hparams : Stops isGap (text ++ []) := h.stops fun _ => not_isGap
      rw [List.append_nil, htext] at hparams
      exact stops_front hparams
    have hpayload : takePayload (left ++ ['"']) = none := by
      obtain ⟨param, start, behind, hfirst, hstart⟩ := h.first
      rw [← takePayload_quote left rest, ← htext, hstart]
      exact takePayload_param hfirst
    refine .params hs (stops_gap hg hne) ?_ ((h.opens ho htext).gap hg)
    rw [dropWhile_run hg hstop]
    exact hpayload

theorem takePayload_before_quote (h : takePayload cs = none) : takePayload (cs ++ ['"']) = none := by
  have hbody : (cs ++ ['"']).takeWhile isPayloadChar = cs.takeWhile isPayloadChar :=
    (stops_quote (by decide) []).takeWhile_append cs
  rw [takePayload_eq_none_iff] at h ⊢
  rw [hbody, behindPayload_quote]
  rcases h with hnone | ⟨c, more, hc, hcomma⟩
  · exact .inl hnone
  · exact .inr ⟨c, more ++ ['"'], by rw [hc]; rfl, hcomma⟩

theorem Opens.lead {lead : List Char} (hl : Separators lead) (h : Opens front) : Opens (lead ++ front) := by
  induction lead with
  | nil => exact h
  | cons c lead ih =>
    refine .skip (not_in_words (hl c List.mem_cons_self)).1 ?_
    exact ih fun d hd => hl d (List.mem_cons_of_mem _ hd)

/-- A challenge that is over does not matter for what follows. -/
theorem WritesChallenge.opens_behind {c : Challenge} {pad : List Char} (h : WritesChallenge c text)
    (hpad : Pads c pad) (he : Ends front)
    (hn : Challenge.startsParam (front.dropWhile isSeparator) = false) (ho : Opens front) :
    Opens (text ++ (pad ++ front)) := by
  obtain ⟨tail, left, htext, hs, ht, hleft, hread⟩ := takeDetails_writes h hpad he hn
  have hopens : Opens (left ++ front) := ho.lead hleft
  rw [htext]
  rw [takeDetails_eq] at hread
  cases hp : takePayload (tail.dropWhile isGap) with
  | some found =>
    obtain ⟨payload, more⟩ := found
    rw [hp] at hread
    have hrest : more = left ++ front := congrArg Prod.snd hread
    exact .payload hs ht hp (hrest ▸ hopens)
  | none =>
    rw [hp] at hread
    have hrest : (takeParams (tail.dropWhile isGap)).2 = left ++ front := congrArg Prod.snd hread
    rw [takeParams_gap] at hrest
    exact .passed hs ht (takePayload_before_quote hp) (hrest ▸ hopens)

theorem Writes.opens {challenges : List Challenge} (h : Writes challenges text) (ho : Outside front)
    (hfront : text = front ++ '"' :: rest) : Opens front := by
  induction h generalizing front with
  | nil hl =>
    refine absurd ?_ hl.quote_not_mem
    rw [hfront]
    exact List.mem_append_right _ List.mem_cons_self
  | @cons c challenges lead text pad more hl hc hp he hr ih =>
    obtain ⟨behind, rfl, hbehind⟩ := split_of_not_mem hl.quote_not_mem hfront
    rw [(outside_of_not_mem hl.quote_not_mem).append_iff] at ho
    refine Opens.lead hl ?_
    rcases split_quote hbehind with ⟨tail, htext⟩ | ⟨behind, rfl, hpart⟩
    · exact hc.opens ho htext
    · -- the pad has no quote, so the front ends behind it
      have hpad := (isSeparator_pad hp.1).quote_not_mem
      obtain ⟨left, rfl, hmore⟩ := split_of_not_mem hpad hpart
      rw [hc.outside.append_iff, (outside_of_not_mem hpad).append_iff] at ho
      -- whether a parameter follows is settled before the quote
      have hn : Challenge.startsParam (left.dropWhile isSeparator) = false := by
        have hnext := hr.not_startsParam fun _ _ => And.left
        rwa [hmore, (stops_quote (by decide) rest).dropWhile_append, startsParam_quote] at hnext
      exact hc.opens_behind hp (ends_front (hmore ▸ he)) hn (ih ho hmore)

end BearerTokens.Challenge
