import BearerTokens.Json.Reader
import Mathlib.Data.List.Basic

/-! # What is written is read back

Every character has a spelling inside a string from which it is read back, so a string is one lexeme whatever it
holds.  A value without numbers whose strings all stand for texts is read back from what is written of it, and
nothing of what follows it is taken.
-/

namespace BearerTokens.Json

/-! ## Strings -/

theorem hexQuad?_control {n : Nat} (hn : n < 32) :
    hexQuad? '0' '0' (Text.hexDigit (n / 16)) (Text.hexDigit (n % 16)) = some n := by
  have hall : ∀ n < 32,
      hexQuad? '0' '0' (Text.hexDigit (n / 16)) (Text.hexDigit (n % 16)) = some n := by
    decide +kernel
  exact hall n hn

theorem stringBody_plain {c : Char} (hquote : c ≠ '"') (hslash : c ≠ '\\') (hc : 32 ≤ c.toNat)
    (cs : List Char) :
    stringBody (c :: cs) = (stringBody cs).map fun p => (c.toNat :: p.1, p.2 + 1) := by
  have hplain : ¬ (c.toNat < 32 ∨ c = '\\') := by
    rintro (h | h)
    · omega
    · exact hslash h
  rw [stringBody, if_neg hplain, Option.map_eq_bind]
  · rfl
  · exact hquote
  · intro _ _ _ _ _ h
    exact absurd h hslash
  · intro _ _ h
    exact absurd h hslash

/-- The spelling of a character is read as that character. -/
theorem stringBody_escapedChar (c : Char) (cs : List Char) : stringBody (escapedChar c ++ cs) =
    (stringBody cs).map fun p => (c.toNat :: p.1, p.2 + (escapedChar c).length) := by
  unfold escapedChar
  split
  case h_8 c hquote hslash _ _ _ _ _ =>
    split
    next hc => cases hs : stringBody cs <;> simp [stringBody, hexQuad?_control hc, hs]
    next hc => exact stringBody_plain hquote hslash (by omega) cs
  all_goals cases hs : stringBody cs <;> simp [stringBody, shortEscape?, hs]

theorem stringBody_flatMap (s rest : List Char) :
    stringBody (s.flatMap escapedChar ++ '"' :: rest) =
      some (s.map Char.toNat, (s.flatMap escapedChar).length + 1) := by
  induction s with
  | nil => simp [stringBody]
  | cons c s ih =>
    rw [List.flatMap_cons, List.append_assoc, stringBody_escapedChar, ih]
    simp only [Option.map_some, List.map_cons, List.length_append]
    congr 2
    omega

/-- No character is half of a pair. -/
theorem not_half (c : Char) : (isHighHalf c.toNat || isLowHalf c.toNat) = false := by
  have hvalid : c.toNat < 0xD800 ∨ 0xDFFF < c.toNat := by
    rcases c.valid with h | h
    · exact .inl h
    · exact .inr h.1
  simp only [isHighHalf, isLowHalf, Bool.or_eq_false_iff, Bool.and_eq_false_iff, decide_eq_false_iff_not]
  omega

theorem joinHalves_toNat (s : List Char) : joinHalves (s.map Char.toNat) = some s := by
  induction s with
  | nil => rfl
  | cons c s ih =>
    have hc := not_half c
    have hchar : Char.ofNat c.toNat = c := Char.ofNat_toNat c
    cases s with
    | nil => simp [joinHalves, hc, hchar]
    | cons d s =>
      obtain ⟨hhigh, hlow⟩ := Bool.or_eq_false_iff.mp hc
      rw [List.map_cons, List.map_cons, joinHalves, ← List.map_cons, ih]
      simp [hhigh, hlow, hchar]

theorem stringLexeme_writeString (s : String) (rest : List Char) :
    stringLexeme (s.toList.flatMap escapedChar ++ '"' :: rest) =
      (.scalar (.string (some s)), (s.toList.flatMap escapedChar).length + 1) := by
  rw [stringLexeme, stringBody_flatMap]
  simp [joinHalves_toNat]

/-! ## Lexemes -/

theorem lexemes_cons {c : Char} {cs : List Char} {l : Lexeme} {n : Nat} (hc : isSpace c = false)
    (hl : lexeme c cs = (l, n)) : lexemes (c :: cs) = l :: lexemes (cs.drop n) := by
  rw [lexemes, hc, hl]
  rfl

theorem lexemes_writeString (s : String) (rest : List Char) :
    lexemes (writeString s ++ rest) = .scalar (.string (some s)) :: lexemes rest := by
  have hrow : writeString s ++ rest = '"' :: (s.toList.flatMap escapedChar ++ '"' :: rest) := by
    simp [writeString]
  rw [hrow, lexemes_cons rfl (show lexeme '"' _ = _ from stringLexeme_writeString s rest)]
  rw [List.drop_length_add_append]
  rfl

@[simp] theorem lexemes_openArray (cs : List Char) : lexemes ('[' :: cs) = .openArray :: lexemes cs :=
  lexemes_cons rfl rfl

@[simp] theorem lexemes_closeArray (cs : List Char) :
    lexemes (']' :: cs) = .closeArray :: lexemes cs := lexemes_cons rfl rfl

@[simp] theorem lexemes_openObject (cs : List Char) :
    lexemes ('\x7b' :: cs) = .openObject :: lexemes cs := lexemes_cons rfl rfl

@[simp] theorem lexemes_closeObject (cs : List Char) :
    lexemes ('\x7d' :: cs) = .closeObject :: lexemes cs := lexemes_cons rfl rfl

@[simp] theorem lexemes_comma (cs : List Char) : lexemes (',' :: cs) = .comma :: lexemes cs :=
  lexemes_cons rfl rfl

@[simp] theorem lexemes_colon (cs : List Char) : lexemes (':' :: cs) = .colon :: lexemes cs :=
  lexemes_cons rfl rfl

@[simp] theorem lexemes_null (cs : List Char) :
    lexemes ('n' :: 'u' :: 'l' :: 'l' :: cs) = .scalar .null :: lexemes cs := lexemes_cons rfl rfl

@[simp] theorem lexemes_true (cs : List Char) :
    lexemes ('t' :: 'r' :: 'u' :: 'e' :: cs) = .scalar (.bool true) :: lexemes cs :=
  lexemes_cons rfl rfl

@[simp] theorem lexemes_false (cs : List Char) :
    lexemes ('f' :: 'a' :: 'l' :: 's' :: 'e' :: cs) = .scalar (.bool false) :: lexemes cs :=
  lexemes_cons rfl rfl

/-! ## Values -/

inductive Textual : Json → Prop where
  | null : Textual .null
  | bool (b : Bool) : Textual (.bool b)
  | string (s : String) : Textual (.text s)
  | array {items : List Json} (hi : ∀ v ∈ items, Textual v) : Textual (.array items)
  | object {members : List (Option String × Json)} (hn : ∀ m ∈ members, m.1 ≠ none)
      (hv : ∀ m ∈ members, Textual m.2) : Textual (.object members)

def readOn (v : Json) (stack : List Open) (ls : List Lexeme) : Option (Json × List Lexeme) :=
  match deliver v stack with
  | .inl whole => some (whole, ls)
  | .inr stack => readFrom ls .follow stack

section Turns

variable {v : Json} {name : Option String} {done : List Json} {fields : List (Option String × Json)}
  {stack : List Open} {ls : List Lexeme} {expect : Expect}

theorem readFrom_scalar (he : expect = .value ∨ expect = .firstItem) :
    readFrom (.scalar v :: ls) expect stack = readOn v stack ls := by
  rcases he with rfl | rfl <;> rfl

theorem readFrom_openArray (he : expect = .value ∨ expect = .firstItem) :
    readFrom (.openArray :: ls) expect stack = readFrom ls .firstItem (.items [] :: stack) := by
  rcases he with rfl | rfl <;> rfl

theorem readFrom_openObject (he : expect = .value ∨ expect = .firstItem) :
    readFrom (.openObject :: ls) expect stack =
      readFrom ls .firstName (.members [] none :: stack) := by
  rcases he with rfl | rfl <;> rfl

theorem readFrom_name (he : expect = .name ∨ expect = .firstName) :
    readFrom (.scalar (.string name) :: .colon :: ls) expect (.members fields none :: stack) =
      readFrom ls .value (.members fields name :: stack) := by
  rcases he with rfl | rfl <;> rfl

theorem readFrom_comma : readOn v (.items done :: stack) (.comma :: ls) =
    readFrom ls .value (.items (v :: done) :: stack) := rfl

theorem readFrom_closeArray : readOn v (.items done :: stack) (.closeArray :: ls) =
    readOn (.array (v :: done).reverse) stack ls := rfl

theorem readFrom_nextName : readOn v (.members fields name :: stack) (.comma :: ls) =
    readFrom ls .name (.members ((name, v) :: fields) none :: stack) := rfl

theorem readFrom_closeObject : readOn v (.members fields name :: stack) (.closeObject :: ls) =
    readOn (.object ((name, v) :: fields).reverse) stack ls := rfl

end Turns

/-- From what is written of the value, where one may stand, the reader takes the value. -/
def ReadsBack (v : Json) : Prop :=
  ∀ (expect : Expect) (rest : List Char) (stack : List Open), expect = .value ∨ expect = .firstItem →
    readFrom (lexemes (v.writeChars ++ rest)) expect stack = readOn v stack (lexemes rest)

theorem readsBack_items {items : List Json} (hi : ∀ v ∈ items, ReadsBack v) (hn : items ≠ [])
    (done : List Json) {expect : Expect} (he : expect = .value ∨ expect = .firstItem)
    (rest : List Char) (stack : List Open) :
    readFrom (lexemes (writeItems items ++ ']' :: rest)) expect (.items done :: stack) =
      readOn (.array (done.reverse ++ items)) stack (lexemes rest) := by
  induction items generalizing done expect with
  | nil => exact absurd rfl hn
  | cons v items ih =>
    have hv := hi v List.mem_cons_self
    cases items with
    | nil =>
      rw [writeItems, hv _ _ _ he, lexemes_closeArray, readFrom_closeArray, List.reverse_cons]
    | cons w items =>
      have hrow : writeItems (v :: w :: items) ++ ']' :: rest =
          v.writeChars ++ (',' :: (writeItems (w :: items) ++ ']' :: rest)) := by
        simp [writeItems]
      have hrest := ih (fun u hu => hi u (List.mem_cons_of_mem v hu)) (List.cons_ne_nil w items)
        (v :: done) (.inl rfl)
      rw [hrow, hv _ _ _ he, lexemes_comma, readFrom_comma, hrest]
      simp

theorem readsBack_members {members : List (Option String × Json)} (ht : ∀ m ∈ members, m.1 ≠ none)
    (hv : ∀ m ∈ members, ReadsBack m.2) (hn : members ≠ []) (done : List (Option String × Json))
    {expect : Expect} (he : expect = .name ∨ expect = .firstName) (rest : List Char)
    (stack : List Open) :
    readFrom (lexemes (writeMembers members ++ '\x7d' :: rest)) expect (.members done none :: stack) =
      readOn (.object (done.reverse ++ members)) stack (lexemes rest) := by
  induction members generalizing done expect with
  | nil => exact absurd rfl hn
  | cons m members ih =>
    obtain ⟨name, v⟩ := m
    obtain ⟨name, rfl⟩ := Option.ne_none_iff_exists'.mp (ht _ List.mem_cons_self)
    have hvalue : ReadsBack v := hv _ List.mem_cons_self
    cases members with
    | nil =>
      have hrow : writeMembers [(some name, v)] ++ '\x7d' :: rest =
          writeString name ++ (':' :: (v.writeChars ++ '\x7d' :: rest)) := by
        simp [writeMembers]
      rw [hrow, lexemes_writeString, lexemes_colon, readFrom_name he, hvalue _ _ _ (.inl rfl),
        lexemes_closeObject, readFrom_closeObject, List.reverse_cons]
    | cons m members =>
      have hrow : writeMembers ((some name, v) :: m :: members) ++ '\x7d' :: rest =
          writeString name ++ (':' :: (v.writeChars ++
            (',' :: (writeMembers (m :: members) ++ '\x7d' :: rest)))) := by
        simp [writeMembers]
      have hrest := ih (fun u hu => ht u (List.mem_cons_of_mem _ hu))
        (fun u hu => hv u (List.mem_cons_of_mem _ hu)) (List.cons_ne_nil m members)
        ((some name, v) :: done) (.inl rfl)
      rw [hrow, lexemes_writeString, lexemes_colon, readFrom_name he, hvalue _ _ _ (.inl rfl),
        lexemes_comma, readFrom_nextName, hrest]
      simp

theorem Textual.readsBack {v : Json} (hv : v.Textual) : v.ReadsBack := by
  induction hv with
  | null =>
    intro expect rest stack he
    exact (congrArg (readFrom · expect stack) (lexemes_null rest)).trans (readFrom_scalar he)
  | bool b =>
    intro expect rest stack he
    cases b with
    | true => exact (congrArg (readFrom · expect stack) (lexemes_true rest)).trans (readFrom_scalar he)
    | false =>
      exact (congrArg (readFrom · expect stack) (lexemes_false rest)).trans (readFrom_scalar he)
  | string s =>
    intro expect rest stack he
    exact (congrArg (readFrom · expect stack) (lexemes_writeString s rest)).trans (readFrom_scalar he)
  | @array items _ ih =>
    intro expect rest stack he
    have hrow : (Json.array items).writeChars ++ rest = '[' :: (writeItems items ++ ']' :: rest) := by
      simp [writeChars]
    rw [hrow, lexemes_openArray, readFrom_openArray he]
    cases items with
    | nil => rw [writeItems, List.nil_append, lexemes_closeArray]; rfl
    | cons v items => exact readsBack_items ih (List.cons_ne_nil v items) [] (.inr rfl) rest stack
  | @object members hn _ ih =>
    intro expect rest stack he
    have hrow : (Json.object members).writeChars ++ rest =
        '\x7b' :: (writeMembers members ++ '\x7d' :: rest) := by
      simp [writeChars]
    rw [hrow, lexemes_openObject, readFrom_openObject he]
    cases members with
    | nil => rw [writeMembers, List.nil_append, lexemes_closeObject]; rfl
    | cons m members =>
      exact readsBack_members hn ih (List.cons_ne_nil m members) [] (.inr rfl) rest stack

/-- A value of texts is read back from what is written of it. -/
theorem Textual.read?_write {v : Json} (hv : v.Textual) : read? v.write = some v := by
  have h := hv.readsBack .value [] [] (.inl rfl)
  rw [List.append_nil] at h
  rw [read?, write, String.toList_ofList, h, lexemes]
  rfl

end BearerTokens.Json
