import BearerTokens.Proofs.Challenge.Reading
import BearerTokens.Proofs.Text.Base64
import BearerTokens.Text.Form

/-! # Form bodies are read as they are written

A form spelling keeps no sign that joins names, values and pairs.  So a body falls apart at its joining signs
into the spellings of the pairs, and each of them stands for the text that was written.
-/

namespace BearerTokens.Text.Form

open Challenge (Stops bne_of_not_mem takeWhile_run stops_cons)

/-! ## Bytes -/

theorem digitValue?_digit {n : Nat} (h : n < 16) : digitValue? (digit n) = some n := by
  have hall : ∀ m : Fin 16, digitValue? (digit m) = some m.val := by decide
  exact hall ⟨n, h⟩

theorem digit_isAlphanum {n : Nat} (h : n < 16) : (digit n).isAlphanum = true := by
  have hall : ∀ m : Fin 16, (digit m).isAlphanum = true := by decide
  exact hall ⟨n, h⟩

theorem toNat_ofByte (b : UInt8) : (Char.ofNat b.toNat).toNat = b.toNat := by
  have hb := b.toNat_lt
  have hvalid : b.toNat.isValidChar := .inl (by omega)
  rw [Char.ofNat, dif_pos hvalid]
  rfl

theorem isKept_iff (b : UInt8) : isKept b = true ↔ (Char.ofNat b.toNat).isAlphanum = true ∨
    Char.ofNat b.toNat ∈ ['*', '-', '.', '_'] := by
  simp [isKept, or_assoc]

theorem decodeBytes_cons {c : Char} (hc : c ≠ '%') (rest : List Char) :
    decodeBytes (c :: rest) = (if c = '+' then 32 else UInt8.ofNat c.toNat) :: decodeBytes rest := by
  rw [decodeBytes]
  intro a b more heq
  exact absurd heq hc

theorem decodeBytes_kept {b : UInt8} (hb : isKept b = true) (rest : List Char) :
    decodeBytes (Char.ofNat b.toNat :: rest) = b :: decodeBytes rest := by
  have hother {c : Char} (hc : c.isAlphanum = false) (hsign : c ∉ ['*', '-', '.', '_']) :
      Char.ofNat b.toNat ≠ c := by
    rintro rfl
    rcases (isKept_iff b).mp hb with h | h
    · rw [hc] at h
      cases h
    · exact hsign h
  rw [decodeBytes_cons (hother (by decide) (by decide)), if_neg (hother (by decide) (by decide)),
    toNat_ofByte, UInt8.ofNat_toNat]

theorem decodeBytes_percent (b : UInt8) (rest : List Char) :
    decodeBytes (percent b ++ rest) = b :: decodeBytes rest := by
  have hb := b.toNat_lt
  have hhigh := digitValue?_digit (n := b.toNat / 16) (by omega)
  have hlow := digitValue?_digit (n := b.toNat % 16) (by omega)
  simp only [percent, List.cons_append, List.nil_append, decodeBytes, hhigh, hlow]
  rw [Nat.div_add_mod', UInt8.ofNat_toNat]

theorem decodeBytes_encodeByte (b : UInt8) (rest : List Char) :
    decodeBytes (encodeByte b ++ rest) = b :: decodeBytes rest := by
  unfold encodeByte
  split
  next hspace =>
    rw [List.singleton_append, decodeBytes_cons (by decide), if_pos rfl, hspace]
  split
  next hkept => exact decodeBytes_kept hkept rest
  next => exact decodeBytes_percent b rest

/-! ## Texts -/

theorem decodeBytes_encode (bytes : List UInt8) : decodeBytes (bytes.flatMap encodeByte) = bytes := by
  induction bytes with
  | nil => rfl
  | cons b bytes ih => rw [List.flatMap_cons, decodeBytes_encodeByte, ih]

@[simp] theorem decode_encode (s : String) : decode (encode s) = some s := by
  rw [decode, encode, decodeBytes_encode, ofUtf8?_utf8]

def IsSpelling (c : Char) : Prop := c.isAlphanum = true ∨ c ∈ ['+', '%', '*', '-', '.', '_']

instance (c : Char) : Decidable (IsSpelling c) := inferInstanceAs (Decidable (_ ∨ _))

theorem isSpelling_encodeByte {b : UInt8} {c : Char} (hc : c ∈ encodeByte b) : IsSpelling c := by
  have hb := b.toNat_lt
  unfold encodeByte at hc
  split at hc
  next =>
    obtain rfl := List.mem_singleton.mp hc
    exact .inr (by decide)
  split at hc
  next hkept =>
    obtain rfl := List.mem_singleton.mp hc
    rcases (isKept_iff b).mp hkept with h | h
    · exact .inl h
    · exact .inr (List.mem_cons_of_mem _ (List.mem_cons_of_mem _ h))
  next =>
    simp only [percent, List.mem_cons, List.not_mem_nil, or_false] at hc
    rcases hc with rfl | rfl | rfl
    · exact .inr (by decide)
    · exact .inl (digit_isAlphanum (by omega))
    · exact .inl (digit_isAlphanum (by omega))

theorem isSpelling_encode {s : String} {c : Char} (hc : c ∈ encode s) : IsSpelling c := by
  obtain ⟨b, -, hc⟩ := List.mem_flatMap.mp hc
  exact isSpelling_encodeByte hc

theorem not_mem_encode {c : Char} (hc : ¬ IsSpelling c) (s : String) : c ∉ encode s :=
  fun hmem => hc (isSpelling_encode hmem)

/-! ## Bodies -/

def cutFirst (sign : Char) (cs : List Char) : List Char × List Char :=
  let before := cs.takeWhile (· != sign)
  (before, cs.drop (before.length + 1))

theorem cutFirst_append {sign : Char} {before : List Char} (h : sign ∉ before) (after : List Char) :
    cutFirst sign (before ++ sign :: after) = (before, after) := by
  have hstops : Stops (· != sign) (sign :: after) := stops_cons.mpr (by simp)
  rw [cutFirst, takeWhile_run (bne_of_not_mem h) hstops, List.drop_append]
  simp

/-- The pair that a spelling stands for: name and value are parted by its first equals sign. -/
def readPair? (cs : List Char) : Option (String × String) := do
  let (name, value) := cutFirst '=' cs
  some (← decode name, ← decode value)

/-- The pairs of a body.  Nothing between two joining signs is no pair. -/
def read? (body : String) : Option (List (String × String)) :=
  ((body.toList.splitOn '&').filter (· ≠ [])).mapM readPair?

theorem readPair?_encodePair (p : String × String) : readPair? (encodePair p) = some p := by
  have hcut := cutFirst_append (not_mem_encode (by decide) p.1 : '=' ∉ encode p.1) (encode p.2)
  simp [readPair?, encodePair, hcut]

theorem encodePair_ne_nil (p : String × String) : encodePair p ≠ [] := by
  simp [encodePair]

theorem join_not_mem_encodePair (p : String × String) : '&' ∉ encodePair p := by
  have hname := not_mem_encode (by decide) p.1 (c := '&')
  have hvalue := not_mem_encode (by decide) p.2 (c := '&')
  simp [encodePair, hname, hvalue]

theorem mapM_readPair? (pairs : List (String × String)) :
    (pairs.map encodePair).mapM readPair? = some pairs := by
  induction pairs with
  | nil => rfl
  | cons p pairs ih =>
    rw [List.map_cons, List.mapM_cons, readPair?_encodePair, ih]
    rfl

/-- A body is read as the pairs of which it is written. -/
theorem read?_body (pairs : List (String × String)) : read? (body pairs) = some pairs := by
  have hkept : (pairs.map encodePair).filter (· ≠ []) = pairs.map encodePair := by
    apply List.filter_eq_self.mpr
    intro cs hcs
    obtain ⟨p, -, rfl⟩ := List.mem_map.mp hcs
    simpa using encodePair_ne_nil p
  rw [read?, body, String.toList_ofList]
  by_cases hnil : pairs = []
  · subst hnil
    rfl
  · have hrows : ∀ cs ∈ pairs.map encodePair, '&' ∉ cs := by
      intro cs hcs
      obtain ⟨p, -, rfl⟩ := List.mem_map.mp hcs
      exact join_not_mem_encodePair p
    rw [List.splitOn_intercalate '&' hrows (by simpa using hnil), hkept, mapM_readPair?]

end BearerTokens.Text.Form
