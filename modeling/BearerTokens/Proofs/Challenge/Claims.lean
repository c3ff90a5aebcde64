import BearerTokens.Proofs.Challenge.Canonical
import BearerTokens.Proofs.Challenge.Fronts
import BearerTokens.Proofs.Challenge.Merging
import BearerTokens.Proofs.Text.Base64

/-! # Claims of a header

The claims of a header are the text that one parameter value spells: the first claims parameter of the first
challenge of the scheme that has one.  No other value gives claims, and a value that spells a text gives that
text however the header is written, in quotes or bare, with all of its closing signs or without.
-/

namespace BearerTokens.Challenge

open Http (isTokenChar)

inductive FirstParam (name : String) : List (String × String) → String → Prop where
  | here {written value : String} {params : List (String × String)}
      (h : Text.sameLetters written name = true) : FirstParam name ((written, value) :: params) value
  | there {written other value : String} {params : List (String × String)}
      (h : Text.sameLetters written name = false) (hr : FirstParam name params value) :
      FirstParam name ((written, other) :: params) value

def NoParam (name : String) (params : List (String × String)) : Prop :=
  ∀ param ∈ params, Text.sameLetters param.1 name = false

/-- The value of the claims parameter of the first challenge of the scheme that has one. -/
inductive FirstClaims (scheme : String) : List Challenge → String → Prop where
  | here {c : Challenge} {challenges : List Challenge} {value : String}
      (hs : c.hasScheme scheme = true) (h : FirstParam claimsParam c.params value) :
      FirstClaims scheme (c :: challenges) value
  | there {c : Challenge} {challenges : List Challenge} {value : String}
      (hn : c.hasScheme scheme = true → NoParam claimsParam c.params)
      (hr : FirstClaims scheme challenges value) : FirstClaims scheme (c :: challenges) value

/-- The text in UTF-8 and base64 for URLs, with none, some or all of the closing signs. -/
def Spells (s : String) (cs : List Char) : Prop :=
  ∃ k ≤ Text.Base64.closing (Text.Base64.encode Text.Base64.urlSafe (Text.utf8 s)).length,
    cs = Text.Base64.encode Text.Base64.urlSafe (Text.utf8 s) ++ List.replicate k '='

/-! ## The parameter that counts -/

theorem find?_eq_some_iff {name value : String} (params : List (String × String)) :
    (params.find? fun p => Text.sameLetters p.1 name).map (·.2) = some value ↔
      FirstParam name params value := by
  induction params with
  | nil =>
    constructor
    · intro h
      cases h
    · rintro ⟨⟩
  | cons param params ih =>
    obtain ⟨written, other⟩ := param
    cases hw : Text.sameLetters written name with
    | true =>
      rw [List.find?_cons_of_pos (by exact hw)]
      constructor
      · rintro ⟨⟩
        exact .here hw
      · rintro (_ | ⟨hw', -⟩)
        · rfl
        · rw [hw] at hw'
          cases hw'
    | false =>
      rw [List.find?_cons_of_neg (by simpa using hw), ih]
      constructor
      · exact .there hw
      · rintro (hw' | ⟨-, hr⟩)
        · rw [hw] at hw'
          cases hw'
        · exact hr

theorem param?_eq_some_iff {c : Challenge} {name value : String} :
    c.param? name = some value ↔ FirstParam name c.params value := find?_eq_some_iff c.params

theorem param?_eq_none_iff {c : Challenge} {name : String} :
    c.param? name = none ↔ NoParam name c.params := by
  simp [param?, NoParam]

theorem firstClaims?_cons (scheme : String) (c : Challenge) (challenges : List Challenge) :
    firstClaims? scheme (c :: challenges) =
      if c.hasScheme scheme = true then (c.param? claimsParam).or (firstClaims? scheme challenges)
      else firstClaims? scheme challenges := by
  unfold firstClaims?
  rw [List.filter_cons]
  split
  next =>
    rw [List.findSome?_cons]
    cases c.param? claimsParam <;> rfl
  next => rfl

theorem firstClaims?_eq_some_iff {scheme value : String} {challenges : List Challenge} :
    firstClaims? scheme challenges = some value ↔ FirstClaims scheme challenges value := by
  induction challenges with
  | nil =>
    constructor
    · intro h
      cases h
    · rintro ⟨⟩
  | cons c challenges ih =>
    rw [firstClaims?_cons]
    constructor
    · intro h
      split at h
      next hs =>
        cases hp : c.param? claimsParam with
        | none =>
          rw [hp] at h
          exact .there (fun _ => param?_eq_none_iff.mp hp) (ih.mp h)
        | some found =>
          rw [hp] at h
          obtain rfl : found = value := Option.some.inj h
          exact .here hs (param?_eq_some_iff.mp hp)
      next hs => exact .there (fun hs' => absurd hs' hs) (ih.mp h)
    · intro h
      cases h with
      | here hs h =>
        rw [if_pos hs, param?_eq_some_iff.mpr h]
        rfl
      | there hn hr =>
        split
        next hs =>
          rw [param?_eq_none_iff.mpr (hn hs)]
          exact ih.mpr hr
        next => exact ih.mpr hr

/-! ## What a value spells -/

theorem ofUtf8?_eq_some_iff {bytes : List UInt8} {s : String} :
    Text.ofUtf8? bytes = some s ↔ bytes = Text.utf8 s := by
  constructor
  · intro h
    simp only [Text.ofUtf8?, String.fromUTF8?] at h
    split at h
    next =>
      cases h
      simp [Text.utf8, String.fromUTF8]
    next => cases h
  · rintro rfl
    exact Text.ofUtf8?_utf8 s

theorem decodeClaims_eq_some_iff {value s : String} : decodeClaims value = some s ↔
    s ≠ "" ∧ Spells s (Text.trimBoth Text.isBlank value.toList) := by
  have hlenient {bytes : List UInt8} : Text.Base64.decodeLenient Text.Base64.urlSafe
      (Text.trimBoth Text.isBlank value.toList) = some bytes ↔ _ :=
    Text.Base64.decodeLenient_eq_some_iff Text.Base64.lawful_urlSafe
  simp only [decodeClaims, Option.bind_eq_bind, Option.bind_eq_some_iff]
  constructor
  · rintro ⟨bytes, hbytes, claims, hclaims, h⟩
    split at h
    next => cases h
    next hne =>
      obtain rfl := Option.some.inj h
      obtain rfl := ofUtf8?_eq_some_iff.mp hclaims
      exact ⟨by simpa using hne, hlenient.mp hbytes⟩
  · rintro ⟨hne, hspells⟩
    refine ⟨Text.utf8 s, hlenient.mpr hspells, s, Text.ofUtf8?_utf8 s, ?_⟩
    rw [if_neg (by simpa using hne)]

theorem claimsOf_eq_some_iff {header scheme s : String} : claimsOf header scheme = some s ↔
    s ≠ "" ∧ ∃ value, FirstClaims scheme (read header) value ∧
      Spells s (Text.trimBoth Text.isBlank value.toList) := by
  rw [claimsOf_eq, Option.bind_eq_some_iff]
  constructor
  · rintro ⟨value, hvalue, hdecode⟩
    obtain ⟨hne, hspells⟩ := decodeClaims_eq_some_iff.mp hdecode
    exact ⟨hne, value, firstClaims?_eq_some_iff.mp hvalue, hspells⟩
  · rintro ⟨hne, value, hvalue, hspells⟩
    exact ⟨value, firstClaims?_eq_some_iff.mpr hvalue, decodeClaims_eq_some_iff.mpr ⟨hne, hspells⟩⟩

/-! ## Codes in a header -/

section Codes

variable {s : String} {code : List Char}

theorem symbol_urlSafe : ∀ v < 64, isTokenChar (Text.Base64.symbol Text.Base64.urlSafe v) = true ∧
    Text.isBlank (Text.Base64.symbol Text.Base64.urlSafe v) = false := by decide

theorem Spells.exists_word (h : Spells s code) (hs : s ≠ "") : ∃ word k, Word word ∧
    (∀ c ∈ word, Text.isBlank c = false) ∧ code = word ++ List.replicate k '=' := by
  obtain ⟨k, -, rfl⟩ := h
  refine ⟨_, k, ⟨?_, ?_⟩, ?_, rfl⟩
  · obtain ⟨x, bytes, hbytes⟩ := List.exists_cons_of_ne_nil (Text.utf8_ne_nil hs)
    rw [hbytes]
    cases bytes with
    | nil => exact List.cons_ne_nil _ _
    | cons y bytes => cases bytes <;> exact List.cons_ne_nil _ _
  · intro c hc
    obtain ⟨v, hv, rfl⟩ := Text.Base64.exists_symbol hc
    exact (symbol_urlSafe v hv).1
  · intro c hc
    obtain ⟨v, hv, rfl⟩ := Text.Base64.exists_symbol hc
    exact (symbol_urlSafe v hv).2

theorem Spells.mem (h : Spells s code) (hs : s ≠ "") :
    ∀ c ∈ code, Text.isBlank c = false ∧ isBareChar c = true ∧ c ≠ '"' ∧ c ≠ '\\' := by
  obtain ⟨word, k, hw, hblank, rfl⟩ := h.exists_word hs
  intro c hc
  rcases List.mem_append.mp hc with hc | hc
  · have htoken := hw.2 c hc
    exact ⟨hblank c hc, isBareChar_of_isTokenChar htoken, ne_of_isTokenChar htoken (by decide),
      ne_of_isTokenChar htoken (by decide)⟩
  · rw [List.eq_of_mem_replicate hc]
    decide

theorem Spells.trimBoth (h : Spells s code) (hs : s ≠ "") : Text.trimBoth Text.isBlank code = code := by
  have hstops {cs : List Char} (hcs : ∀ c ∈ cs, c ∈ code) : Stops Text.isBlank cs :=
    fun c hc => (h.mem hs c (hcs c (List.mem_of_mem_head? hc))).1
  have hback : Stops Text.isBlank code.reverse := hstops fun c hc => List.mem_reverse.mp hc
  rw [Text.trimBoth, (hstops fun c hc => hc).dropWhile_eq, hback.dropWhile_eq, List.reverse_reverse]

theorem quotes_self {value : List Char} (h : ∀ c ∈ value, c ≠ '"' ∧ c ≠ '\\') : Quotes value value := by
  induction value with
  | nil => exact .nil
  | cons c value ih =>
    obtain ⟨hq, hb⟩ := h c List.mem_cons_self
    exact .plain hq hb (ih fun d hd => h d (List.mem_cons_of_mem _ hd))

/-- A code is read alike in quotes and without them. -/
theorem Spells.readChars_bare {front rest : List Char} (h : Spells s code) (hs : s ≠ "")
    (hopens : Opens front) (hrest : Stops isBareChar rest) :
    readChars (front ++ (code ++ rest)) = readChars (front ++ '"' :: (code ++ '"' :: rest)) := by
  have hbare : ∀ c ∈ code, isBareChar c = true := fun c hc => (h.mem hs c hc).2.1
  have hquoted : takeValue ('"' :: (code ++ '"' :: rest)) = (code, rest) :=
    takeQuoted_quotes (quotes_self fun c hc => (h.mem hs c hc).2.2) rest
  -- the first character is one of a word, so the code begins a value also without quotes
  obtain ⟨word, k, hw, -, hcode⟩ := h.exists_word hs
  obtain ⟨c, more, hword⟩ := List.exists_cons_of_ne_nil hw.1
  have hc : isTokenChar c = true := hw.2 c (by rw [hword]; exact List.mem_cons_self)
  have hstart : code ++ rest = c :: (more ++ List.replicate k '=' ++ rest) := by
    rw [hcode, hword]
    rfl
  have hvalue : takeValue (code ++ rest) = (code, rest) := by
    have hquote : c ≠ '"' := ne_of_isTokenChar hc (by decide)
    have hplain := takeValue_plain hquote (more ++ List.replicate k '=' ++ rest)
    rwa [← hstart, takeWhile_run hbare hrest, dropWhile_run hbare hrest] at hplain
  have hbegins : Begins (code ++ rest) :=
    ⟨c, _, hstart, not_isGap hc, ne_of_isTokenChar hc (by decide), ne_of_isTokenChar hc (by decide)⟩
  have hbegins' : Begins ('"' :: (code ++ '"' :: rest)) := ⟨'"', _, rfl, by decide, by decide, by decide⟩
  obtain ⟨before, scheme, params, name, hread⟩ := hopens.reads
  rw [hread _ hbegins, hread _ hbegins', hvalue, hquoted]

end Codes

/-- Claims are decoded exactly, and each text that is not empty survives in every written header. -/
theorem claims_exact :
    (∀ header s : String, claimsOf header bearerScheme = some s ↔
      s ≠ "" ∧ ∃ value, FirstClaims bearerScheme (read header) value ∧
        Spells s (Text.trimBoth Text.isBlank value.toList)) ∧
    ∀ (challenges : List Challenge) (value s : String), s ≠ "" → Spells s value.toList →
      FirstClaims bearerScheme challenges value →
        (∀ header : String, Writes challenges header.toList → claimsOf header bearerScheme = some s) ∧
        ∀ front rest : String, Writes challenges (front ++ "\"" ++ value ++ "\"" ++ rest).toList →
          Outside front.toList → Stops isBareChar rest.toList →
            claimsOf (front ++ value ++ rest) bearerScheme = some s := by
  refine ⟨fun header s => claimsOf_eq_some_iff, ?_⟩
  intro challenges value s hs hspells hfirst
  have hclaims {header : String} (hread : read header = challenges) :
      claimsOf header bearerScheme = some s := by
    refine claimsOf_eq_some_iff.mpr ⟨hs, value, ?_, ?_⟩
    · rwa [hread]
    · rwa [hspells.trimBoth hs]
  refine ⟨fun header hwrites => hclaims (readChars_writes hwrites), ?_⟩
  intro front rest hwrites houtside hrest
  have htext : (front ++ "\"" ++ value ++ "\"" ++ rest).toList =
      front.toList ++ '"' :: (value.toList ++ '"' :: rest.toList) := by simp
  rw [htext] at hwrites
  have hopens : Opens front.toList := hwrites.opens houtside rfl
  refine hclaims ?_
  have hbare : (front ++ value ++ rest).toList = front.toList ++ (value.toList ++ rest.toList) := by simp
  rw [read, hbare, hspells.readChars_bare hs hopens hrest]
  exact readChars_writes hwrites

theorem claims_exact_padded :
    (Spells "a" "YQ==".toList ∧
      FirstClaims bearerScheme [{ scheme := "Negotiate", payload := some "YQ==" },
        { scheme := "Bearer", params := [("claims", "YQ=="), ("error", "x, \"y\"")] }] "YQ==" ∧
      Writes [{ scheme := "Negotiate", payload := some "YQ==" },
        { scheme := "Bearer", params := [("claims", "YQ=="), ("error", "x, \"y\"")] }]
        ("Negotiate YQ==, Bearer claims=" ++ "\"" ++ "YQ==" ++ "\"" ++
          ", error=\"x, \\\"y\\\"\"").toList ∧
      Outside "Negotiate YQ==, Bearer claims=".toList ∧
      Stops isBareChar ", error=\"x, \\\"y\\\"\"".toList) ∧
    claimsOf ("Negotiate YQ==, Bearer claims=" ++ "YQ==" ++ ", error=\"x, \\\"y\\\"\"")
      bearerScheme = some "a" := by
  have hspells : Spells "a" "YQ==".toList := ⟨2, by decide +kernel, by decide +kernel⟩
  have hfirst : FirstClaims bearerScheme [{ scheme := "Negotiate", payload := some "YQ==" },
      { scheme := "Bearer", params := [("claims", "YQ=="), ("error", "x, \"y\"")] }] "YQ==" := by
    refine .there (fun _ param hp => absurd hp List.not_mem_nil) (.here ?_ (.here ?_))
    · simp [hasScheme, Text.sameLetters]
    · simp [Text.sameLetters]
  have hwrites : Writes [{ scheme := "Negotiate", payload := some "YQ==" },
      { scheme := "Bearer", params := [("claims", "YQ=="), ("error", "x, \"y\"")] }]
      ("Negotiate YQ==, Bearer claims=" ++ "\"" ++ "YQ==" ++ "\"" ++
        ", error=\"x, \\\"y\\\"\"").toList := by
    have h := writes_write (readChars_writable
      "Negotiate YQ==, Bearer claims=\"YQ==\", error=\"x, \\\"y\\\"\"".toList)
    have hread : readChars
        "Negotiate YQ==, Bearer claims=\"YQ==\", error=\"x, \\\"y\\\"\"".toList =
          [{ scheme := "Negotiate", payload := some "YQ==" },
            { scheme := "Bearer", params := [("claims", "YQ=="), ("error", "x, \"y\"")] }] := by
      decide +kernel
    rwa [hread] at h
  have houtside : Outside "Negotiate YQ==, Bearer claims=".toList := by decide
  have hrest : Stops isBareChar ", error=\"x, \\\"y\\\"\"".toList := stops_cons.mpr (by decide)
  refine ⟨⟨hspells, hfirst, hwrites, houtside, hrest⟩, ?_⟩
  exact (claims_exact.2 _ _ "a" (by decide) hspells hfirst).2 _ _ hwrites houtside hrest

end BearerTokens.Challenge
