import BearerTokens.Challenge.Reader

/-! # How challenges are written

A header value lists challenges with commas between them, and any number of further commas and blanks
around them.  A challenge is its scheme alone, or its scheme with an opaque payload or with parameters.
A value is quoted, with a backslash before every quote and backslash and before any other character that
the writer chooses, or it is a word and stands as it is.  The relations say which text stands for what;
one list of challenges has many texts.
-/

namespace BearerTokens.Challenge

open Http (isTokenChar)

def Word (cs : List Char) : Prop := cs ≠ [] ∧ ∀ c ∈ cs, isTokenChar c = true

theorem word_of_isToken {s : String} (h : Http.isToken s = true) : Word s.toList := by
  simp only [Http.isToken, Bool.and_eq_true, List.all_eq_true] at h
  refine ⟨fun hnone => ?_, h.2⟩
  have hempty : s = "" := String.toList_inj.mp hnone
  rw [hempty] at h
  exact absurd h.1 (by decide)

def Gap (cs : List Char) : Prop := ∀ c ∈ cs, isGap c = true

def Blanks (cs : List Char) : Prop := ∀ c ∈ cs, Text.isAsciiBlank c = true

def Separators (cs : List Char) : Prop := ∀ c ∈ cs, isSeparator c = true

/-- The text is over, or goes on with a comma. -/
def Ends (cs : List Char) : Prop := ∀ c ∈ cs.head?, c = ','

inductive Payload : List Char → Prop where
  | intro {body closing : List Char} (hne : body ≠ []) (hb : ∀ c ∈ body, isPayloadChar c = true)
      (hc : ∀ c ∈ closing, c = '=') : Payload (body ++ closing)

/-- What may stand between the quotes for a value. -/
inductive Quotes : List Char → List Char → Prop where
  | nil : Quotes [] []
  | plain {c : Char} {value text : List Char} (hq : c ≠ '"') (hb : c ≠ '\\')
      (h : Quotes value text) : Quotes (c :: value) (c :: text)
  | escaped {c : Char} {value text : List Char} (h : Quotes value text) :
      Quotes (c :: value) ('\\' :: c :: text)

inductive WritesValue : List Char → List Char → Prop where
  | quoted {value text : List Char} (h : Quotes value text) :
      WritesValue value ('"' :: (text ++ ['"']))
  | bare {value : List Char} (h : Word value) : WritesValue value value

inductive WritesParam : String × String → List Char → Prop where
  | intro {name value : String} {before after text : List Char} (hn : Word name.toList)
      (hb : Gap before) (ha : Gap after) (hv : WritesValue value.toList text) :
      WritesParam (name, value) (name.toList ++ (before ++ '=' :: (after ++ text)))

inductive WritesParams : List (String × String) → List Char → Prop where
  | one {param : String × String} {text : List Char} (h : WritesParam param text) :
      WritesParams [param] text
  | cons {param : String × String} {params : List (String × String)}
      {text pad between rest : List Char} (h : WritesParam param text) (hp : Blanks pad)
      (hs : Separators between) (hr : WritesParams params rest) :
      WritesParams (param :: params) (text ++ (pad ++ ',' :: (between ++ rest)))

inductive WritesChallenge : Challenge → List Char → Prop where
  | alone {scheme : String} (hs : Word scheme.toList) : WritesChallenge { scheme } scheme.toList
  | payload {scheme payload : String} {gap : List Char} (hs : Word scheme.toList)
      (hne : gap ≠ []) (hg : Gap gap) (h : Payload payload.toList) :
      WritesChallenge { scheme, payload := some payload } (scheme.toList ++ (gap ++ payload.toList))
  | params {scheme : String} {params : List (String × String)} {gap text : List Char}
      (hs : Word scheme.toList) (hne : gap ≠ []) (hg : Gap gap) (h : WritesParams params text) :
      WritesChallenge { scheme, params } (scheme.toList ++ (gap ++ text))

/-- The text of a whole header value.  Behind each challenge comes a pad, and then the text is over or
goes on with a comma. -/
inductive WritesWith (pads : Challenge → List Char → Prop) : List Challenge → List Char → Prop where
  | nil {lead : List Char} (hl : Separators lead) : WritesWith pads [] lead
  | cons {challenge : Challenge} {challenges : List Challenge} {lead text pad rest : List Char}
      (hl : Separators lead) (hc : WritesChallenge challenge text) (hp : pads challenge pad)
      (he : Ends rest) (hr : WritesWith pads challenges rest) :
      WritesWith pads (challenge :: challenges) (lead ++ (text ++ (pad ++ rest)))

/-- Blanks, which behind a payload are spaces and tabs. -/
def Pads (c : Challenge) (pad : List Char) : Prop := Blanks pad ∧ (c.payload ≠ none → Gap pad)

abbrev Writes : List Challenge → List Char → Prop := WritesWith Pads

/-- Behind a payload, too, stand blanks of any kind. -/
abbrev WritesLoosely : List Challenge → List Char → Prop := WritesWith fun _ => Blanks

structure Writable (c : Challenge) : Prop where
  scheme : Word c.scheme.toList
  names (param : String × String) : param ∈ c.params → Word param.1.toList
  payload (payload : String) : c.payload = some payload →
    Payload payload.toList ∧ c.params = []

/-! ## Every challenge has a text -/

theorem exists_quotes (value : List Char) : ∃ text, Quotes value text := by
  induction value with
  | nil => exact ⟨[], .nil⟩
  | cons c value ih =>
    obtain ⟨text, h⟩ := ih
    exact ⟨'\\' :: c :: text, .escaped h⟩

theorem exists_writesParam {param : String × String} (hn : Word param.1.toList) :
    ∃ text, WritesParam param text := by
  obtain ⟨text, h⟩ := exists_quotes param.2.toList
  have hnone : Gap [] := by simp [Gap]
  exact ⟨_, .intro hn hnone hnone (.quoted h)⟩

theorem exists_writesParams {param : String × String} {params : List (String × String)}
    (hn : ∀ p ∈ param :: params, Word p.1.toList) : ∃ text, WritesParams (param :: params) text := by
  induction params generalizing param with
  | nil =>
    obtain ⟨text, h⟩ := exists_writesParam (hn param (by simp))
    exact ⟨text, .one h⟩
  | cons next params ih =>
    obtain ⟨text, h⟩ := exists_writesParam (hn param (by simp))
    obtain ⟨rest, hr⟩ := ih fun p hp => hn p (List.mem_cons_of_mem _ hp)
    have hpad : Blanks [] := by simp [Blanks]
    have hbetween : Separators [] := by simp [Separators]
    exact ⟨_, .cons h hpad hbetween hr⟩

theorem exists_writesChallenge {c : Challenge} (hc : c.Writable) :
    ∃ text, WritesChallenge c text := by
  obtain ⟨scheme, params, payload⟩ := c
  have hgap : Gap [' '] := by simp [Gap, isGap]
  cases payload with
  | some payload =>
    obtain ⟨hp, hnone⟩ := hc.payload payload rfl
    cases hnone
    exact ⟨_, .payload hc.scheme (List.cons_ne_nil _ _) hgap hp⟩
  | none =>
    cases params with
    | nil => exact ⟨_, .alone hc.scheme⟩
    | cons param params =>
      obtain ⟨text, h⟩ := exists_writesParams hc.names
      exact ⟨_, .params hc.scheme (List.cons_ne_nil _ _) hgap h⟩

/-! ## Pads -/

theorem Gap.blanks {cs : List Char} (hg : Gap cs) : Blanks cs := by
  intro c hc
  have hgap := hg c hc
  simp only [isGap, Bool.or_eq_true, beq_iff_eq] at hgap
  rcases hgap with rfl | rfl <;> decide

theorem Gap.pads {cs : List Char} (hg : Gap cs) (c : Challenge) : Pads c cs := ⟨hg.blanks, fun _ => hg⟩

theorem pads_nil (c : Challenge) : Pads c [] := Gap.pads (by simp [Gap]) c

variable {pads : Challenge → List Char → Prop}

theorem WritesWith.loosely {challenges : List Challenge} {text : List Char}
    (h : WritesWith pads challenges text) (hpads : ∀ c pad, pads c pad → Blanks pad) :
    WritesLoosely challenges text := by
  induction h with
  | nil hl => exact .nil hl
  | cons hl hc hp he _ ih => exact .cons hl hc (hpads _ _ hp) he ih

/-! ## Texts one after another -/

theorem ends_cons (rest : List Char) : Ends (',' :: rest) := by
  simp [Ends]

theorem WritesWith.lead {challenges : List Challenge} {lead text : List Char} (hl : Separators lead)
    (h : WritesWith pads challenges text) : WritesWith pads challenges (lead ++ text) := by
  have hboth {lead' : List Char} (hl' : Separators lead') : Separators (lead ++ lead') := by
    intro c hc
    rcases List.mem_append.mp hc with hc | hc
    · exact hl c hc
    · exact hl' c hc
  cases h with
  | nil hl' => exact .nil (hboth hl')
  | cons hl' hc hp he hr =>
    rw [← List.append_assoc]
    exact .cons (hboth hl') hc hp he hr

/-- Two texts with a comma and a space between them are a text for both lists. -/
theorem WritesWith.join {challenges more : List Challenge} {text rest : List Char}
    (h : WritesWith pads challenges text) (hr : WritesWith pads more rest) :
    WritesWith pads (challenges ++ more) (text ++ (',' :: ' ' :: rest)) := by
  have hcomma : Separators [',', ' '] := by simp [Separators, isSeparator, Text.isAsciiBlank]
  have hnext : WritesWith pads more (',' :: ' ' :: rest) := hr.lead hcomma
  induction h with
  | nil hl => exact hnext.lead hl
  | @cons _ _ lead text pad rest' hl hc hp he _ ih =>
    have hends : Ends (rest' ++ (',' :: ' ' :: rest)) := by
      cases rest' with
      | nil => exact ends_cons _
      | cons c rest' => exact he
    have htext : lead ++ (text ++ (pad ++ rest')) ++ (',' :: ' ' :: rest) =
        lead ++ (text ++ (pad ++ (rest' ++ (',' :: ' ' :: rest)))) := by
      simp only [List.append_assoc]
    rw [htext]
    exact .cons hl hc hp hends ih

theorem exists_writes {challenges : List Challenge} (h : ∀ c ∈ challenges, c.Writable) :
    ∃ text, Writes challenges text := by
  have hlead : Separators [] := by simp [Separators]
  induction challenges with
  | nil => exact ⟨[], .nil hlead⟩
  | cons c challenges ih =>
    obtain ⟨text, hc⟩ := exists_writesChallenge (h c (by simp))
    obtain ⟨rest, hr⟩ := ih fun c hc => h c (List.mem_cons_of_mem _ hc)
    have hone : Writes [c] (text ++ []) :=
      .cons hlead hc (pads_nil c) (by simp [Ends]) (.nil hlead)
    exact ⟨_, hone.join hr⟩

end BearerTokens.Challenge
