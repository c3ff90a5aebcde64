import BearerTokens.Proofs.Challenge.Reading
import BearerTokens.Challenge.Response

/-! # Several challenge headers in one

The challenges of a response are those of its headers one after another, and one header that has all of
their values between commas reads the same.  The claims of a response are those of the first header whose
claims parameter decodes, but within one header the first claims parameter alone counts.  So one header
in place of several hides the claims of a header that stands behind a parameter that does not decode.
-/

namespace BearerTokens

namespace Challenge

theorem writes_flatMap {lines : List String} (h : ∀ line ∈ lines, ∃ cs, Writes cs line.toList) :
    Writes (lines.flatMap read) (", ".intercalate lines).toList := by
  have hread (line : String) (hl : line ∈ lines) : Writes (read line) line.toList := by
    obtain ⟨cs, hcs⟩ := h line hl
    rwa [read, readChars_writes hcs]
  rw [String.toList_intercalate]
  clear h
  induction lines with
  | nil => exact .nil (by simp [Separators])
  | cons line lines ih =>
    have hline : Writes (read line) line.toList := hread line List.mem_cons_self
    cases lines with
    | nil => simpa using hline
    | cons next lines =>
      have hrest := ih fun line hl => hread line (List.mem_cons_of_mem _ hl)
      have hjoin := hline.join hrest
      simpa [List.intercalate] using hjoin

def firstClaims? (scheme : String) (challenges : List Challenge) : Option String :=
  (challenges.filter (·.hasScheme scheme)).findSome? (·.param? claimsParam)

theorem claimsOf_eq (header scheme : String) :
    claimsOf header scheme = (firstClaims? scheme (read header)).bind decodeClaims := rfl

theorem firstClaims?_append (scheme : String) (challenges more : List Challenge) :
    firstClaims? scheme (challenges ++ more) =
      (firstClaims? scheme challenges).or (firstClaims? scheme more) := by
  simp [firstClaims?, List.findSome?_append]

variable {scheme : String}

/-- The first line that has a claims parameter has one that does not decode, and a line behind it has
claims. -/
inductive Masked (scheme : String) : List String → Prop where
  | here {line value : String} {lines : List String} (hp : firstClaims? scheme (read line) = some value)
      (hd : decodeClaims value = none) (hl : ∃ later ∈ lines, (claimsOf later scheme).isSome) :
      Masked scheme (line :: lines)
  | there {line : String} {lines : List String} (hp : firstClaims? scheme (read line) = none)
      (h : Masked scheme lines) : Masked scheme (line :: lines)

/-- Read at once, the claims behind the parameter that does not decode are lost. -/
theorem Masked.claims {lines : List String} (h : Masked scheme lines) :
    (firstClaims? scheme (lines.flatMap read)).bind decodeClaims = none ∧
      ∃ claims, lines.findSome? (claimsOf · scheme) = some claims := by
  induction h with
  | @here line value lines hp hd hl =>
    constructor
    · simp [firstClaims?_append, hp, hd]
    · obtain ⟨later, hmem, hsome⟩ := hl
      refine Option.isSome_iff_exists.mp (List.findSome?_isSome_iff.mpr ?_)
      exact ⟨later, List.mem_cons_of_mem _ hmem, hsome⟩
  | @there line lines hp _ ih =>
    simpa [firstClaims?_append, claimsOf_eq, hp] using ih

theorem claims_of_not_masked {lines : List String} (h : ¬ Masked scheme lines) :
    (firstClaims? scheme (lines.flatMap read)).bind decodeClaims =
      lines.findSome? (claimsOf · scheme) := by
  induction lines with
  | nil => rfl
  | cons line lines ih =>
    cases hp : firstClaims? scheme (read line) with
    | none =>
      have hrest := ih fun hm => h (.there hp hm)
      simpa [firstClaims?_append, claimsOf_eq, hp] using hrest
    | some value =>
      cases hd : decodeClaims value with
      | some claims => simp [firstClaims?_append, claimsOf_eq, hp, hd]
      | none =>
        have hnone : lines.findSome? (claimsOf · scheme) = none := by
          refine List.findSome?_eq_none_iff.mpr fun later hl => ?_
          cases hc : claimsOf later scheme with
          | none => rfl
          | some claims => exact absurd (.here hp hd ⟨later, hl, by simp [hc]⟩) h
        have hline : claimsOf line scheme = none := by
          rw [claimsOf_eq, hp]
          exact hd
        simp [firstClaims?_append, hp, hd, hline, hnone]

end Challenge

namespace Http.Response

open Challenge

def joined (r : Response) : Response :=
  { r with
    headers := r.headers.replace challengeHeader
      (", ".intercalate (r.headers.valuesOf challengeHeader)) }

theorem isReadable_intercalate {lines : List String} (h : ∀ line ∈ lines, isReadable line = true) :
    isReadable (", ".intercalate lines) = true := by
  simp only [isReadable, List.all_eq_true] at h ⊢
  rw [String.toList_intercalate]
  induction lines with
  | nil => simp
  | cons line lines ih =>
    cases lines with
    | nil => simpa using h line
    | cons next lines =>
      intro c hc
      have hsplit : c ∈ line.toList ∨ c ∈ ", ".toList ∨
          c ∈ ", ".toList.intercalate ((next :: lines).map String.toList) := by
        simpa [List.intercalate, or_assoc] using hc
      rcases hsplit with hc | hc | hc
      · exact h line List.mem_cons_self c hc
      · have hsep : ∀ d ∈ ", ".toList, (d == '\t' || (' ' ≤ d && d ≤ '~')) = true :=
          List.all_eq_true.mp (by decide)
        exact hsep c hc
      · exact ih (fun line hl => h line (List.mem_cons_of_mem _ hl)) c hc

section Joined

variable {r : Response} (hr : ∀ line ∈ r.headers.valuesOf challengeHeader, isReadable line = true)
  (hw : ∀ line ∈ r.headers.valuesOf challengeHeader, ∃ cs, Writes cs line.toList)

include hr in
theorem challengeTexts_eq (hs : r.status = unauthorized) :
    r.challengeTexts = r.headers.valuesOf challengeHeader := by
  rw [challengeTexts, if_pos hs]
  exact List.filter_eq_self.mpr hr

include hr in
theorem challengeTexts_joined (hs : r.status = unauthorized) :
    r.joined.challengeTexts = [", ".intercalate r.challengeTexts] := by
  rw [challengeTexts_eq hr hs, challengeTexts, if_pos (show r.joined.status = unauthorized from hs)]
  simp only [joined, Headers.readable, Headers.valuesOf_replace]
  exact List.filter_eq_self.mpr (by simpa using isReadable_intercalate hr)

include hr hw in
theorem read_joined (hs : r.status = unauthorized) :
    Challenge.read (", ".intercalate r.challengeTexts) = r.challenges := by
  rw [Response.challenges, challengeTexts_eq hr hs]
  exact readChars_writes (writes_flatMap hw)

include hr hw in
theorem claims?_joined (hs : r.status = unauthorized) :
    r.joined.claims? = (firstClaims? bearerScheme r.challenges).bind decodeClaims := by
  rw [Response.claims?, challengeTexts_joined hr hs]
  simp [claimsOf_eq, read_joined hr hw hs]

end Joined

def claiming (values : List String) : Response where
  status := unauthorized
  headers := values.map fun value => (challengeHeader, "Bearer claims=" ++ value)

theorem writes_claims {value : String} (hv : isToken value = true) :
    Writes [{ scheme := "Bearer", params := [("claims", value)] }]
      ("Bearer claims=" ++ value).toList := by
  have hscheme : Word "Bearer".toList := word_of_isToken (by decide)
  have hname : Word "claims".toList := word_of_isToken (by decide)
  have hgap : Gap [' '] := by simp [Gap, isGap]
  have hnone : Gap [] := by simp [Gap]
  have hlead : Separators [] := by simp [Separators]
  have hparam := WritesParam.intro hname hnone hnone (.bare (word_of_isToken hv))
  have hchallenge := WritesChallenge.params hscheme (List.cons_ne_nil _ _) hgap (.one hparam)
  have h := WritesWith.cons hlead hchallenge (pads_nil _) (by simp [Ends]) (.nil hlead)
  simpa using h

theorem claiming_writes {values : List String} (hv : ∀ value ∈ values, isToken value = true) :
    ∀ line ∈ (claiming values).headers.valuesOf challengeHeader, ∃ cs, Writes cs line.toList := by
  intro line hl
  obtain ⟨value, hmem, rfl⟩ : ∃ value ∈ values, "Bearer claims=" ++ value = line := by
    simpa [claiming, Headers.valuesOf, List.filter_map] using hl
  exact ⟨_, writes_claims (hv value hmem)⟩

theorem firstClaims?_claiming {value : String} (hv : isToken value = true) :
    firstClaims? "Bearer" (Challenge.read ("Bearer claims=" ++ value)) = some value := by
  have hread : Challenge.read ("Bearer claims=" ++ value) =
      [{ scheme := "Bearer", params := [("claims", value)] }] := readChars_writes (writes_claims hv)
  have hscheme : Text.sameLetters "Bearer" "Bearer" = true := by decide +kernel
  have hname : Text.sameLetters "claims" "claims" = true := by decide +kernel
  simp [hread, firstClaims?, hasScheme, param?, hscheme, hname]

/-- One header in place of several has the same challenges, and the same claims unless some are hidden. -/
theorem joined_answers {r : Response} (hs : r.status = unauthorized)
    (hr : ∀ line ∈ r.headers.valuesOf challengeHeader, isReadable line = true)
    (hw : ∀ line ∈ r.headers.valuesOf challengeHeader, ∃ cs, Writes cs line.toList) :
    r.joined.challenges = r.challenges ∧
      (r.joined.claims? = r.claims? ↔
        ¬ Masked bearerScheme (r.headers.valuesOf challengeHeader)) ∧
      (Masked bearerScheme (r.headers.valuesOf challengeHeader) →
        r.joined.claims? = none ∧ ∃ claims, r.claims? = some claims) := by
  have htexts := challengeTexts_eq hr hs
  have hmasked (hm : Masked bearerScheme (r.headers.valuesOf challengeHeader)) :
      r.joined.claims? = none ∧ ∃ claims, r.claims? = some claims := by
    rw [claims?_joined hr hw hs, Response.challenges, Response.claims?, htexts]
    exact hm.claims
  refine ⟨?_, ⟨fun heq hm => ?_, fun hm => ?_⟩, hmasked⟩
  · rw [Response.challenges, challengeTexts_joined hr hs]
    simpa using read_joined hr hw hs
  · obtain ⟨hnone, claims, hsome⟩ := hmasked hm
    rw [heq, hsome] at hnone
    cases hnone
  · rw [claims?_joined hr hw hs, Response.challenges, Response.claims?, htexts]
    exact claims_of_not_masked hm

theorem joined_twoClaims :
    (claiming ["YQ", "%"]).joined.challenges = (claiming ["YQ", "%"]).challenges ∧
      (claiming ["YQ", "%"]).joined.claims? = (claiming ["YQ", "%"]).claims? := by
  have hwords : ∀ value ∈ ["YQ", "%"], isToken value = true := by decide
  have hr : ∀ line ∈ (claiming ["YQ", "%"]).headers.valuesOf challengeHeader,
      isReadable line = true := by decide
  have hanswers := joined_answers rfl hr (claiming_writes hwords)
  refine ⟨hanswers.1, hanswers.2.1.mpr fun hm => ?_⟩
  have hfirst := firstClaims?_claiming (hwords "YQ" (by decide))
  cases hm with
  | here hp hd =>
    rw [hfirst] at hp
    cases hp
    exact absurd hd (by decide +kernel)
  | there hp => cases hfirst.symm.trans hp

theorem joined_not_same : ¬ ∀ r : Response, r.status = unauthorized →
    (∀ line ∈ r.headers.valuesOf challengeHeader, isReadable line = true) →
    (∀ line ∈ r.headers.valuesOf challengeHeader, ∃ cs, Writes cs line.toList) →
    r.joined.challenges = r.challenges ∧ r.joined.claims? = r.claims? := by
  intro hsame
  have hwords : ∀ value ∈ ["%", "YQ"], isToken value = true := by decide
  have hr : ∀ line ∈ (claiming ["%", "YQ"]).headers.valuesOf challengeHeader,
      isReadable line = true := by decide
  have hw := claiming_writes hwords
  have hgiven : (claimsOf ("Bearer claims=" ++ "YQ") "Bearer").isSome := by
    rw [claimsOf_eq, firstClaims?_claiming (hwords "YQ" (by decide))]
    decide +kernel
  have hmasked : Masked "Bearer" ["Bearer claims=" ++ "%", "Bearer claims=" ++ "YQ"] :=
    .here (firstClaims?_claiming (hwords "%" (by decide))) (by decide +kernel) ⟨_, by simp, hgiven⟩
  obtain ⟨hnone, claims, hsome⟩ := hmasked.claims
  have heq := (hsame _ rfl hr hw).2
  rw [claims?_joined hr hw rfl, Response.challenges, Response.claims?, challengeTexts_eq hr rfl] at heq
  cases hnone.symm.trans (heq.trans hsome)

end Http.Response

end BearerTokens
