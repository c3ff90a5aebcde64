import BearerTokens.Proofs.Challenge.Canonical
import BearerTokens.Proofs.Challenge.Fronts

/-! # Text in quotes

What a header says in quotes should stand for values only.  It does where the front opens a value, so
everywhere in a header that keeps to the grammar.  A front that opens none lets the text between the quotes
be read like the header itself: with a comma in it, it brings challenges of its own.
-/

namespace BearerTokens.Challenge

def shape (c : Challenge) : String × List String × Option String :=
  (c.scheme, c.params.map (·.1), c.payload)

/-- Whatever is put in quotes behind the front, at most values depend on it. -/
def Conceals (front : String) : Prop :=
  ∀ (value value' : List Char) (first second rest : String), Quotes value first.toList →
    Quotes value' second.toList →
      (read (front ++ "\"" ++ first ++ "\"" ++ rest)).map shape =
        (read (front ++ "\"" ++ second ++ "\"" ++ rest)).map shape

theorem read_quoted (front text rest : String) : read (front ++ "\"" ++ text ++ "\"" ++ rest) =
    readChars (front.toList ++ '"' :: (text.toList ++ '"' :: rest.toList)) := by
  simp [read]

theorem begins_quote (more : List Char) : Begins ('"' :: more) :=
  ⟨'"', more, rfl, by decide, by decide, by decide⟩

theorem conceals_of_opens {front : String} (h : Opens front.toList) : Conceals front := by
  obtain ⟨before, scheme, params, name, hread⟩ := h.reads
  intro value value' first second rest hfirst hsecond
  have hvalue {value : List Char} {text : String} (hq : Quotes value text.toList) :
      takeValue ('"' :: (text.toList ++ '"' :: rest.toList)) = (value, rest.toList) :=
    takeQuoted_quotes hq rest.toList
  rw [read_quoted, read_quoted, hread _ (begins_quote _), hread _ (begins_quote _), hvalue hfirst,
    hvalue hsecond]
  simp [shape]

theorem length_read_quoted {front : String} (hf : Unescaped front.toList) (ho : ¬ Opens front.toList) :
    (read (front ++ "\",a\"")).length = (read (front ++ "\"\"")).length + 1 := by
  have hmore := length_of_not_opens hf ho
  simpa [read] using hmore

theorem opens_of_conceals {front : String} (hf : Unescaped front.toList) (h : Conceals front) :
    Opens front.toList := by
  by_contra ho
  have hletter : Quotes [',', 'a'] ",a".toList :=
    .plain (by decide) (by decide) (.plain (by decide) (by decide) .nil)
  have hsame := congrArg List.length (h [',', 'a'] [] ",a" "" "" hletter .nil)
  have hmore := length_of_not_opens hf ho
  simp only [List.length_map, read_quoted] at hsame
  have hsame' : (readChars (front.toList ++ '"' :: [',', 'a', '"'])).length =
      (readChars (front.toList ++ '"' :: ['"'])).length := hsame
  omega

/-- Text in quotes behind a name and `=` is concealed just where the reader comes to a value there, as it
does in every header that is written by the grammar up to there.  Elsewhere it can bring a challenge. -/
theorem conceals_iff (start name : String) :
    (Conceals (start ++ name ++ "=") ↔ Opens (start ++ name ++ "=").toList) ∧
      (¬ Opens (start ++ name ++ "=").toList →
        (read (start ++ name ++ "=" ++ "\",a\"")).length =
          (read (start ++ name ++ "=" ++ "\"\"")).length + 1) ∧
      ∀ (challenges : List Challenge) (rest : List Char),
        Writes challenges ((start ++ name ++ "=").toList ++ '"' :: rest) →
          Outside (start ++ name ++ "=").toList → Conceals (start ++ name ++ "=") := by
  have hf : Unescaped (start ++ name ++ "=").toList := by
    have hsign : (start ++ name ++ "=").toList = (start ++ name).toList ++ ['='] := String.toList_append
    rw [Unescaped, hsign, List.getLast?_concat]
    decide
  refine ⟨⟨opens_of_conceals hf, conceals_of_opens⟩, length_read_quoted hf, ?_⟩
  intro challenges rest hwrites houtside
  exact conceals_of_opens (hwrites.opens houtside rfl)

/-- Behind a value that another one follows without a comma, text in quotes makes a challenge with claims. -/
theorem not_conceals_description :
    ¬ Conceals ("Bearer error=\"e\" " ++ "error_description" ++ "=") := by
  intro h
  have hquotes : Quotes "x, Bearer claims=YQ ".toList "x, Bearer claims=YQ ".toList :=
    quotes_escaped "x, Bearer claims=YQ ".toList
  have hsame := h _ _ "" "x, Bearer claims=YQ " "" .nil hquotes
  have hempty : (read ("Bearer error=\"e\" " ++ "error_description" ++ "=" ++ "\"" ++ "" ++ "\"" ++
      "")).map shape = [("Bearer", ["error"], none)] := by decide +kernel
  have hclaims : (read ("Bearer error=\"e\" " ++ "error_description" ++ "=" ++ "\"" ++
      "x, Bearer claims=YQ " ++ "\"" ++ "")).map shape =
        [("Bearer", ["error"], none), ("Bearer", ["claims"], none)] := by decide +kernel
  rw [hempty, hclaims] at hsame
  exact absurd hsame (by decide)

/-- A front of a written header, one with a stray word before a comma, and one that lacks the comma. -/
theorem conceals_iff_description :
    (Writes (read "Bearer error=\"a, b\", error_description=\"c\"")
        (("Bearer error=\"a, b\", " ++ "error_description" ++ "=").toList ++ '"' :: ['c', '"']) ∧
      Outside ("Bearer error=\"a, b\", " ++ "error_description" ++ "=").toList ∧
      Conceals ("Bearer error=\"a, b\", " ++ "error_description" ++ "=")) ∧
    (Opens ("Bearer error=\"e\" x, " ++ "error_description" ++ "=").toList ∧
      Conceals ("Bearer error=\"e\" x, " ++ "error_description" ++ "=")) ∧
    ¬ Opens ("Bearer error=\"e\" " ++ "error_description" ++ "=").toList ∧
      (read ("Bearer error=\"e\" " ++ "error_description" ++ "=" ++ "\",a\"")).length =
        (read ("Bearer error=\"e\" " ++ "error_description" ++ "=" ++ "\"\"")).length + 1 := by
  have hwrites : Writes (read "Bearer error=\"a, b\", error_description=\"c\"")
      "Bearer error=\"a, b\", error_description=\"c\"".toList := by
    have h := writes_write (readChars_writable
      "Bearer error=\"a, b\", error_description=\"c\"".toList)
    have hback : write (readChars "Bearer error=\"a, b\", error_description=\"c\"".toList) =
        "Bearer error=\"a, b\", error_description=\"c\"" := by decide +kernel
    rwa [hback] at h
  have houtside : Outside ("Bearer error=\"a, b\", " ++ "error_description" ++ "=").toList := by
    decide
  have hbearer : Word "Bearer".toList := word_of_isToken (by decide)
  have hname : Word "error_description".toList := word_of_isToken (by decide)
  have hnone : Gap [] := by simp [Gap]
  have hnext : behindComma (takeParam "error=\"e\" x, error_description=".toList).2 =
      [] ++ ("error_description".toList ++ ([] ++ '=' :: [])) := by decide +kernel
  have hparams : ParamsOpen " error=\"e\" x, error_description=".toList :=
    .next (by decide) (hnext ▸ ParamsOpen.here hnone hname hnone hnone)
  have hopens : Opens ("Bearer".toList ++ " error=\"e\" x, error_description=".toList) :=
    .params hbearer (stops_cons.mpr (by decide)) (by decide +kernel) hparams
  have hnot : ¬ Opens ("Bearer error=\"e\" " ++ "error_description" ++ "=").toList := fun h =>
    not_conceals_description ((conceals_iff "Bearer error=\"e\" " "error_description").1.mpr h)
  refine ⟨⟨hwrites, houtside, ?_⟩, ⟨hopens, ?_⟩, hnot, ?_⟩
  · exact (conceals_iff "Bearer error=\"a, b\", " "error_description").2.2 _ _ hwrites houtside
  · exact (conceals_iff "Bearer error=\"e\" x, " "error_description").1.mpr hopens
  · exact (conceals_iff "Bearer error=\"e\" " "error_description").2.1 hnot

theorem not_always_concealed : ¬ ∀ start name : String, Word name.toList →
    Outside (start ++ name ++ "=").toList → Conceals (start ++ name ++ "=") := by
  intro h
  have hname : Word "error_description".toList := word_of_isToken (by decide)
  have houtside : Outside ("Bearer error=\"e\" " ++ "error_description" ++ "=").toList := by decide
  exact not_conceals_description (h "Bearer error=\"e\" " "error_description" hname houtside)

end BearerTokens.Challenge
