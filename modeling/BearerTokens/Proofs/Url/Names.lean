import BearerTokens.Proofs.Http.Target
import BearerTokens.Proofs.Text.Base64
import BearerTokens.Proofs.Text.Form
import BearerTokens.Url.Domain
import BearerTokens.Url.Path

/-! # No delimiter in a name

Signs that part an address are encoded where they stand for themselves, and no label of a name may hold them.
The ASCII form of a label has letters, digits and hyphens beside the characters of the label: so it is where
the form is written, and so it has to be where the form is read.
-/

namespace BearerTokens.Url

def isDelimiter (c : Char) : Bool := c == '/' || c == '?' || c == '#'

def Undivided (cs : List Char) : Prop := ∀ c ∈ cs, isDelimiter c = false

section Undivided

variable {cs ds : List Char} {c : Char}

theorem undivided_nil : Undivided [] := fun _ hc => absurd hc List.not_mem_nil

theorem undivided_append : Undivided (cs ++ ds) ↔ Undivided cs ∧ Undivided ds := by
  simp [Undivided, or_imp, forall_and]

theorem undivided_cons : Undivided (c :: cs) ↔ isDelimiter c = false ∧ Undivided cs := by
  simp [Undivided]

theorem ne_of_class {p : Char → Bool} {d : Char} (h : p c = false) (hd : p d = true) : c ≠ d := by
  rintro rfl
  rw [h] at hd
  cases hd

/-- No delimiter is in a class that holds none of them. -/
theorem not_isDelimiter_of {p : Char → Bool} (h : p c = true)
    (hp : p '/' = false ∧ p '?' = false ∧ p '#' = false) : isDelimiter c = false := by
  have hne {d : Char} (hd : p d = false) : c ≠ d := (ne_of_class hd h).symm
  simp [isDelimiter, hne hp.1, hne hp.2.1, hne hp.2.2]

theorem not_isDelimiter (h : c.isAlphanum = true) : isDelimiter c = false :=
  not_isDelimiter_of h (by decide)

theorem mem_intercalate {α : Type} {sep : List α} {rows : List (List α)} {a : α}
    (h : a ∈ sep.intercalate rows) : a ∈ sep ∨ ∃ row ∈ rows, a ∈ row := by
  induction rows with
  | nil => simp at h
  | cons row rows ih =>
    cases rows with
    | nil => exact .inr ⟨row, List.mem_cons_self, by simpa using h⟩
    | cons next rows =>
      rw [List.intercalate_cons_cons, List.mem_append, List.mem_append] at h
      rcases h with (h | h) | h
      · exact .inr ⟨row, List.mem_cons_self, h⟩
      · exact .inl h
      · rcases ih h with h | ⟨found, hfound, h⟩
        · exact .inl h
        · exact .inr ⟨found, List.mem_cons_of_mem _ hfound, h⟩

end Undivided

/-! ## Parts between signs -/

section Parts

variable {p : Char → Bool} {cs row rest : List Char} {rows : List (List Char)} {c : Char}

theorem splitAt_ne_nil (p : Char → Bool) (cs : List Char) : splitAt p cs ≠ [] := by
  cases cs with
  | nil => simp [splitAt]
  | cons c cs =>
    rw [splitAt]
    split
    · simp
    · split <;> simp

theorem splitAt_nosign (h : ∀ c ∈ row, p c = false) : splitAt p row = [row] := by
  induction row with
  | nil => rfl
  | cons c row ih =>
    obtain ⟨hc, hrow⟩ := List.forall_mem_cons.mp h
    simp [splitAt, hc, ih hrow]

theorem splitAt_append (h : ∀ c ∈ row, p c = false) (hc : p c = true) :
    splitAt p (row ++ c :: rest) = row :: splitAt p rest := by
  induction row with
  | nil => simp [splitAt, hc]
  | cons d row ih =>
    obtain ⟨hd, hrow⟩ := List.forall_mem_cons.mp h
    simp [splitAt, hd, ih hrow]

theorem splitAt_intercalate (hc : p c = true) (hne : rows ≠ [])
    (h : ∀ row ∈ rows, ∀ d ∈ row, p d = false) : splitAt p ([c].intercalate rows) = rows := by
  induction rows with
  | nil => exact absurd rfl hne
  | cons row rows ih =>
    obtain ⟨hrow, hrows⟩ := List.forall_mem_cons.mp h
    cases rows with
    | nil =>
      rw [List.intercalate_singleton]
      exact splitAt_nosign hrow
    | cons next rows =>
      rw [List.intercalate_cons_cons, List.append_assoc, List.singleton_append,
        splitAt_append hrow hc, ih (List.cons_ne_nil _ _) hrows]

theorem intercalate_splitAt (sign : Char) (cs : List Char) :
    [sign].intercalate (splitAt (· == sign) cs) = cs := by
  induction cs with
  | nil => rfl
  | cons c cs ih =>
    obtain ⟨part, rest, hparts⟩ : ∃ part rest, splitAt (· == sign) cs = part :: rest := by
      exact List.exists_cons_of_ne_nil (splitAt_ne_nil _ _)
    rw [hparts] at ih
    by_cases hc : c = sign
    · subst hc
      simp only [splitAt, beq_self_eq_true, if_true, hparts]
      rw [List.intercalate_cons_cons, ih]
      rfl
    · have hother : (c == sign) = false := by simpa using hc
      simp only [splitAt, hother, hparts]
      cases rest with
      | nil =>
        rw [List.intercalate_singleton] at ih
        simp [List.intercalate_singleton, ih]
      | cons next rest =>
        rw [List.intercalate_cons_cons] at ih
        simp [List.intercalate_cons_cons, ← ih]

theorem mem_splitAt (hrow : row ∈ splitAt p cs) : ∀ c ∈ row, p c = false := by
  induction cs generalizing row with
  | nil =>
    obtain rfl := List.mem_singleton.mp hrow
    simp
  | cons d cs ih =>
    rw [splitAt] at hrow
    split at hrow
    next =>
      rcases List.mem_cons.mp hrow with rfl | hrow
      · simp
      · exact ih hrow
    next hd =>
      cases hparts : splitAt p cs with
      | nil =>
        rw [hparts] at hrow
        obtain rfl := List.mem_singleton.mp hrow
        simpa using hd
      | cons part rest =>
        rw [hparts] at hrow ih
        rcases List.mem_cons.mp hrow with rfl | hrow
        · exact List.forall_mem_cons.mpr ⟨by simpa using hd, ih List.mem_cons_self⟩
        · exact ih (List.mem_cons_of_mem _ hrow)

theorem mem_of_mem_splitAt (hrow : row ∈ splitAt p cs) (hc : c ∈ row) : c ∈ cs := by
  induction cs generalizing row with
  | nil =>
    obtain rfl := List.mem_singleton.mp hrow
    cases hc
  | cons d cs ih =>
    rw [splitAt] at hrow
    split at hrow
    next =>
      rcases List.mem_cons.mp hrow with rfl | hrow
      · cases hc
      · exact List.mem_cons_of_mem _ (ih hrow hc)
    next =>
      cases hparts : splitAt p cs with
      | nil =>
        rw [hparts] at hrow
        obtain rfl := List.mem_singleton.mp hrow
        exact List.mem_cons.mpr (.inl (List.mem_singleton.mp hc))
      | cons part rest =>
        rw [hparts] at hrow ih
        rcases List.mem_cons.mp hrow with rfl | hrow
        · rcases List.mem_cons.mp hc with rfl | hc
          · exact List.mem_cons_self
          · exact List.mem_cons_of_mem _ (ih List.mem_cons_self hc)
        · exact List.mem_cons_of_mem _ (ih (List.mem_cons_of_mem _ hrow) hc)

end Parts

/-! ## Encoded characters -/

section Encoded

variable {p : Char → Bool} {cs : List Char} {c : Char}

theorem mem_percentEncoded {d : Char} (h : c ∈ percentEncoded d) : c = '%' ∨ c.isAlphanum = true := by
  obtain ⟨b, -, hc⟩ := List.mem_flatMap.mp h
  have hb := b.toNat_lt
  simp only [Text.Form.percent, List.mem_cons, List.not_mem_nil, or_false] at hc
  rcases hc with rfl | rfl | rfl
  · exact .inl rfl
  · exact .inr (Text.Form.digit_isAlphanum (by omega))
  · exact .inr (Text.Form.digit_isAlphanum (by omega))

theorem mem_encodeWith (h : c ∈ encodeWith p cs) :
    c = '%' ∨ c.isAlphanum = true ∨ (c ∈ cs ∧ p c = false ∧ c.toNat < 127) := by
  obtain ⟨d, hd, hc⟩ := List.mem_flatMap.mp h
  split at hc
  next =>
    rcases mem_percentEncoded hc with h | h
    · exact .inl h
    · exact .inr (.inl h)
  next hkept =>
    obtain rfl := List.mem_singleton.mp hc
    simp only [Bool.or_eq_true, decide_eq_true_eq, not_or, Bool.not_eq_true, Nat.not_le] at hkept
    exact .inr (.inr ⟨hd, hkept⟩)

/-- An encoded character does not stand in the text. -/
theorem not_mem_encoded (hp : p c = true) (hc : c ≠ '%' ∧ c.isAlphanum = false) :
    c ∉ (encoded p cs).toList := by
  rw [encoded, String.toList_ofList]
  intro h
  rcases mem_encodeWith h with h | h | ⟨-, h, -⟩
  · exact hc.1 h
  · rw [hc.2] at h
    cases h
  · rw [hp] at h
    cases h

theorem undivided_encoded (hp : p '/' = true ∧ p '?' = true ∧ p '#' = true) :
    Undivided (encoded p cs).toList := by
  intro c hc
  rw [encoded, String.toList_ofList] at hc
  rcases mem_encodeWith hc with rfl | hc | ⟨-, hc, -⟩
  · rfl
  · exact not_isDelimiter hc
  · have hkept : (!p c) = true := by simpa using hc
    exact not_isDelimiter_of (p := fun d => !p d) hkept (by simpa using hp)

end Encoded

/-! ## Labels -/

section Labels

variable {label code out rest cs : List Char} {c : Char}

theorem labelDigit_isAlphanum {n : Nat} (h : n < 36) : (labelDigit n).isAlphanum = true := by
  have hall : ∀ m : Fin 36, (labelDigit m).isAlphanum = true := by decide
  exact hall ⟨n, h⟩

theorem isAlphanum_of_labelDigitValue? {v : Nat} (h : labelDigitValue? c = some v) :
    c.isAlphanum = true := by
  rw [Text.Base64.isAlphanum_iff]
  unfold labelDigitValue? at h
  split at h
  next hc => exact .inr (.inl hc)
  split at h
  next hc => exact .inr (.inr hc)
  next => cases h

theorem threshold_le (place bias : Nat) : threshold place bias ≤ 26 := by
  unfold threshold
  split
  · omega
  · split <;> omega

theorem labelNumber_isAlphanum {bias place q : Nat} (h : c ∈ labelNumber bias place q) :
    c.isAlphanum = true := by
  fun_induction labelNumber bias place q with
  | case1 place q t hlt =>
    obtain rfl := List.mem_singleton.mp h
    have ht : t ≤ 26 := threshold_le place bias
    exact labelDigit_isAlphanum (by omega)
  | case2 place q t hle ih =>
    have ht : t ≤ 26 := threshold_le place bias
    rcases List.mem_cons.mp h with rfl | h
    · have hrest := Nat.mod_lt (q - t) (by omega : 0 < 36 - t)
      exact labelDigit_isAlphanum (by omega)
    · exact ih h

theorem encodePoint_out {P : Char → Prop} (hdigit : ∀ c, c.isAlphanum = true → P c) (n : Nat)
    {s : LabelState} (hs : ∀ c ∈ s.out, P c) : ∀ c ∈ (encodePoint label n s).out, P c := by
  rw [encodePoint]
  refine List.foldlRecOn label _ (motive := fun s : LabelState => ∀ c ∈ s.out, P c) hs ?_
  intro s hs c _
  split
  next => exact hs
  split
  next =>
    intro d hd
    rcases List.mem_append.mp hd with hd | hd
    · exact hs d hd
    · exact hdigit d (labelNumber_isAlphanum hd)
  next => exact hs

theorem mem_encodeLabel (h : c ∈ encodeLabel label) : c ∈ label ∨ c = '-' ∨ c.isAlphanum = true := by
  revert c
  let P (c : Char) : Prop := c ∈ label ∨ c = '-' ∨ c.isAlphanum = true
  change ∀ c ∈ encodeLabel label, P c
  rw [encodeLabel]
  refine List.foldlRecOn _ _ (motive := fun s : LabelState × Nat => ∀ c ∈ s.1.out, P c) ?_ ?_
  · intro c hc
    split at hc
    next => cases hc
    next =>
      rcases List.mem_append.mp hc with hc | hc
      · exact .inl ((List.mem_filter.mp hc).1)
      · exact .inr (.inl (List.mem_singleton.mp hc))
  · intro s hs n _
    exact encodePoint_out (fun c hc => .inr (.inr hc)) n hs

theorem readNumber?_digits {bias place weight sum n : Nat}
    (h : readNumber? bias place weight sum cs = some (n, rest)) (hc : c ∈ cs) :
    c ∈ rest ∨ c.isAlphanum = true := by
  induction cs generalizing place weight sum with
  | nil => cases hc
  | cons d cs ih =>
    simp only [readNumber?, Option.bind_eq_bind, Option.bind_eq_some_iff] at h
    obtain ⟨v, hv, next, -, h⟩ := h
    split at h
    next =>
      cases h
      rcases List.mem_cons.mp hc with rfl | hc
      · exact .inr (isAlphanum_of_labelDigitValue? hv)
      · exact .inl hc
    next =>
      obtain ⟨w, -, h⟩ := Option.bind_eq_some_iff.mp h
      rcases List.mem_cons.mp hc with rfl | hc
      · exact .inr (isAlphanum_of_labelDigitValue? hv)
      · exact ih h hc

theorem LabelReading.next?_out {r r' : LabelReading} {sum : Nat} (h : r.next? sum = some r')
    (hc : c ∈ r.out) : c ∈ r'.out := by
  simp only [next?] at h
  split at h
  next =>
    cases h
    have hplace : sum % (r.out.length + 1) < r.out.length + 1 := Nat.mod_lt _ (by omega)
    exact (List.mem_insertIdx (by omega)).mpr (.inr hc)
  next => cases h

theorem readNumbers?_digits {fuel : Nat} {r : LabelReading} (h : readNumbers? fuel r cs = some out) :
    (∀ c ∈ cs, c.isAlphanum = true) ∧ ∀ c ∈ r.out, c ∈ out := by
  fun_induction readNumbers? fuel r cs with
  | case1 =>
    cases h
    exact ⟨by simp, fun c hc => hc⟩
  | case2 => cases h
  | case3 fuel r cs hne ih =>
    simp only [Option.bind_eq_bind, Option.bind_eq_some_iff] at h
    obtain ⟨⟨sum, rest⟩, hnumber, r', hnext, h⟩ := h
    obtain ⟨hdigits, hout⟩ := ih rest r' h
    constructor
    · intro c hc
      rcases readNumber?_digits hnumber hc with hc | hc
      · exact hdigits c hc
      · exact hc
    · intro c hc
      exact hout c (LabelReading.next?_out hnext hc)

/-- The characters of an ASCII form are digits and signs, or stand in the label. -/
theorem mem_decodeLabel? (h : decodeLabel? code = some out) (hc : c ∈ code) :
    c ∈ out ∨ c = '-' ∨ c.isAlphanum = true := by
  obtain ⟨before, digits, rfl, hb, hd⟩ := Http.Uri.exists_lastRun '-' code
  have hlast := Http.Uri.lastRun_eq hb hd
  rw [Http.Uri.lastRun] at hlast
  simp only [decodeLabel?, hlast] at h
  split at h
  next => cases h
  split at h
  next hempty =>
    exact .inr (.inr ((readNumbers?_digits h).1 c hc))
  next =>
    obtain ⟨hdigits, hout⟩ := readNumbers?_digits h
    rcases hb with rfl | hb
    · exact .inr (.inr (hdigits c hc))
    · obtain ⟨basic, rfl⟩ := List.getLast?_eq_some_iff.mp hb
      have hlength : (basic ++ ['-'] ++ digits).length - digits.length - 1 = basic.length := by
        simp only [List.length_append, List.length_singleton]
        omega
      rw [hlength, List.append_assoc, List.take_left] at hout
      simp only [List.append_assoc, List.singleton_append, List.mem_append, List.mem_cons] at hc
      rcases hc with hc | rfl | hc
      · exact .inl (hout c hc)
      · exact .inr (.inl rfl)
      · exact .inr (.inr (hdigits c hc))

/-- No forbidden character stands in the text. -/
def Allowed (cs : List Char) : Prop := ∀ c ∈ cs, isForbidden c = false

theorem contains_alphanum {signs : List Char} (hs : signs.any Char.isAlphanum = false)
    (h : c.isAlphanum = true) : signs.contains c = false := by
  rw [Bool.eq_false_iff, ne_eq, List.contains_iff_mem]
  exact fun hc => List.any_eq_false.mp hs c hc h

theorem isForbidden_alphanum (h : c.isAlphanum = true) : isForbidden c = false := by
  by_contra hforbidden
  simp only [isForbidden, Bool.not_eq_false, Bool.or_eq_true, decide_eq_true_eq, beq_iff_eq] at hforbidden
  rcases hforbidden with (hlow | rfl) | hmem
  · have hnum : 48 ≤ c.toNat := by
      rcases (Text.Base64.isAlphanum_iff c).mp h with h | h | h <;> omega
    omega
  · cases h
  · rw [contains_alphanum (by decide) h] at hmem
    cases hmem

theorem Allowed.undivided (h : Allowed cs) : Undivided cs := by
  intro c hc
  have hallowed : (!isForbidden c) = true := by simpa using h c hc
  exact not_isDelimiter_of (p := fun d => !isForbidden d) hallowed (by decide)

theorem Allowed.append {ds : List Char} (h : Allowed cs) (hd : Allowed ds) : Allowed (cs ++ ds) := by
  intro c hc
  rcases List.mem_append.mp hc with hc | hc
  · exact h c hc
  · exact hd c hc

theorem allowed_isLabel (h : isLabel label = true) : Allowed label := by
  intro c hc
  simp only [isLabel, Bool.and_eq_true, Bool.not_eq_true', List.any_eq_false, Bool.not_eq_true] at h
  simpa using h.1.1.1 c hc

theorem allowed_asciiSign : Allowed asciiSign := by
  have hnone : asciiSign.any isForbidden = false := by decide
  exact fun c hc => by simpa using List.any_eq_false.mp hnone c hc

theorem allowed_meaning? {meaning : List Char} (h : meaning? label = some meaning)
    (hm : isLabel meaning = true) : Allowed label := by
  unfold meaning? at h
  split at h
  next hsign =>
    obtain ⟨code, rfl⟩ := List.isPrefixOf_iff_prefix.mp hsign
    simp only [List.drop_left] at h
    split at h
    next => cases h
    obtain ⟨decoded, hcode, h⟩ := Option.bind_eq_some_iff.mp h
    split at h
    next =>
      cases h
      refine allowed_asciiSign.append ?_
      intro c hc
      rcases mem_decodeLabel? hcode hc with hc | rfl | hc
      · exact allowed_isLabel hm c hc
      · rfl
      · exact isForbidden_alphanum hc
    next => cases h
  next =>
    cases h
    exact allowed_isLabel hm

theorem allowed_labelText (h : Allowed label) : Allowed (labelText label) := by
  unfold labelText
  split
  next => exact h
  next =>
    refine allowed_asciiSign.append ?_
    intro c hc
    rcases mem_encodeLabel hc with hc | rfl | hc
    · exact h c hc
    · rfl
    · exact isForbidden_alphanum hc

theorem exists_of_mapM {α β : Type} {f : α → Option β} {l : List α} {l' : List β}
    (h : l.mapM f = some l') {a : α} (ha : a ∈ l) : ∃ b ∈ l', f a = some b := by
  induction l generalizing l' with
  | nil => cases ha
  | cons x l ih =>
    simp only [List.mapM_cons, Option.bind_eq_bind, Option.bind_eq_some_iff] at h
    obtain ⟨y, hy, l', hl, h⟩ := h
    cases h
    rcases List.mem_cons.mp ha with rfl | ha
    · exact ⟨y, List.mem_cons_self, hy⟩
    · obtain ⟨b, hb, hf⟩ := ih hl ha
      exact ⟨b, List.mem_cons_of_mem _ hb, hf⟩

theorem allowed_domain? {name written : List Char} (h : domain? name = some written) :
    Allowed written := by
  simp only [domain?, Option.bind_eq_bind, Option.bind_eq_some_iff] at h
  obtain ⟨images, -, meanings, hmeanings, h⟩ := h
  split at h
  next hall =>
    cases h
    simp only [Bool.and_eq_true, List.all_eq_true] at hall
    intro c hc
    rcases mem_intercalate hc with hc | ⟨row, hrow, hc⟩
    · obtain rfl := List.mem_singleton.mp hc
      rfl
    · obtain ⟨label, hlabel, rfl⟩ := List.mem_map.mp hrow
      obtain ⟨meaning, hmem, hmeaning⟩ := exists_of_mapM hmeanings hlabel
      exact allowed_labelText (allowed_meaning? hmeaning (hall.1 meaning hmem)) c hc
  next => cases h

end Labels

end BearerTokens.Url
