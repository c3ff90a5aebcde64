import BearerTokens.Proofs.Url.Numeric
import BearerTokens.Url.Reader

/-! # Hosts that are read as themselves

A host is a name that holds no forbidden character, or groups in brackets; so the sign that ends it is never
its own.  Numeric hosts are read as themselves.  So is a name in lower case, if none of its labels is marked as
the ASCII form of other characters.
-/

namespace BearerTokens.Url

open Challenge (Stops stops_cons)

/-! ## Names -/

/-- In lower case, and no label is marked as an ASCII form. -/
structure PlainName (host : List Char) : Prop where
  lower : ∀ c ∈ host, c.toNat < 128 ∧ c.toLower = c
  unmarked : ∀ label ∈ splitAt (· == '.') host, ¬ asciiSign.isPrefixOf label = true

section Names

open Text

variable {cs host label : List Char}

theorem joinersFit_plain {before : List Char} (h : ∀ c ∈ cs, isJoiner c = false) :
    joinersFit before cs = true := by
  induction cs generalizing before with
  | nil => rfl
  | cons c cs ih =>
    obtain ⟨hc, hcs⟩ := List.forall_mem_cons.mp h
    simp [joinersFit, hc, ih hcs]

theorem isLabel_plain (ha : Allowed label) (hl : ∀ c ∈ label, c.toNat < 128) : isLabel label = true := by
  have hjoiner : ∀ c ∈ label, isJoiner c = false := by
    intro c hc
    have hne {d : Char} (hd : 128 ≤ d.toNat) : c ≠ d := by
      rintro rfl
      exact absurd (hl c hc) (by omega)
    simp [isJoiner, hne (d := '\u200c') (by decide), hne (d := '\u200d') (by decide)]
  have hmark : label.head?.any Text.isMark = false := by
    cases label with
    | nil => rfl
    | cons c label =>
      have hc := hl c List.mem_cons_self
      simp [Text.isMark]
      omega
  have hascii : label.all isAscii = true := by
    rw [List.all_eq_true]
    intro c hc
    simpa [isAscii] using hl c hc
  have hallowed : label.any isForbidden = false := by
    rw [List.any_eq_false]
    intro c hc
    simp [ha c hc]
  simp [isLabel, hallowed, hmark, joinersFit_plain hjoiner, hascii]

theorem mapM_eq_some_of {α β : Type} {f : α → Option β} {g : α → β} {l : List α}
    (h : ∀ a ∈ l, f a = some (g a)) : l.mapM f = some (l.map g) := by
  induction l with
  | nil => rfl
  | cons a l ih =>
    obtain ⟨ha, hl⟩ := List.forall_mem_cons.mp h
    simp [List.mapM_cons, ha, ih hl]

theorem PlainName.images (h : PlainName host) : host.mapM image? = some (host.map ([·])) := by
  refine mapM_eq_some_of fun c hc => ?_
  obtain ⟨hascii, hlower⟩ := h.lower c hc
  rw [image?, if_pos hascii, hlower]

theorem PlainName.composed_eq (h : PlainName host) : composed host = host := by
  rw [composed, if_pos]
  rw [List.all_eq_true]
  intro c hc
  have hascii := (h.lower c hc).1
  simp only [decide_eq_true_eq]
  omega

/-- A label is in lower case as the name is. -/
theorem PlainName.lower_label (h : PlainName host) (hlabel : label ∈ splitAt (· == '.') host) :
    ∀ c ∈ label, c.toNat < 128 :=
  fun c hc => (h.lower c (mem_of_mem_splitAt hlabel hc)).1

theorem PlainName.labels (h : PlainName host) :
    (splitAt (· == '.') host).mapM meaning? = some (splitAt (· == '.') host) ∧
      (splitAt (· == '.') host).map labelText = splitAt (· == '.') host := by
  have hmeaning : ∀ label ∈ splitAt (· == '.') host, meaning? label = some (id label) := by
    intro label hlabel
    rw [meaning?, if_neg (h.unmarked label hlabel)]
    rfl
  have htext : ∀ label ∈ splitAt (· == '.') host, labelText label = id label := by
    intro label hlabel
    rw [labelText, if_pos]
    · rfl
    · rw [List.all_eq_true]
      exact fun c hc => by simpa [isAscii] using h.lower_label hlabel c hc
  exact ⟨(mapM_eq_some_of hmeaning).trans (by rw [List.map_id]),
    (List.map_congr_left htext).trans (List.map_id _)⟩

theorem PlainName.not_turns (h : PlainName host) :
    (splitAt (· == '.') host).any (·.any turnsLeft) = false := by
  rw [List.any_eq_false]
  intro label hlabel
  rw [Bool.not_eq_true, List.any_eq_false]
  intro c hc
  have hascii := h.lower_label hlabel c hc
  simp only [turnsLeft, Bool.and_eq_true, decide_eq_true_eq]
  omega

theorem PlainName.domain?_eq (h : PlainName host) (ha : Allowed host) : domain? host = some host := by
  obtain ⟨hmeanings, htexts⟩ := h.labels
  have hflat : (host.map ([·])).flatten = host := by
    rw [← List.flatMap_def, List.flatMap_singleton']
  have hall : (splitAt (· == '.') host).all isLabel = true :=
    List.all_eq_true.mpr fun label hlabel =>
      isLabel_plain (fun c hc => ha c (mem_of_mem_splitAt hlabel hc)) (h.lower_label hlabel)
  simp only [domain?, h.images, Option.bind_eq_bind, Option.bind_some, hflat, h.composed_eq, hmeanings,
    h.not_turns, hall, htexts, intercalate_splitAt]
  rfl

theorem percentDecode_plain (h : '%' ∉ cs) : percentDecode cs = utf8 (String.ofList cs) := by
  induction cs with
  | nil => rfl
  | cons c cs ih =>
    obtain ⟨hc, hcs⟩ := not_or.mp (mt List.mem_cons.mpr h)
    have htext : String.ofList (c :: cs) = String.singleton c ++ String.ofList cs := by
      apply String.toList_injective
      simp
    rw [htext, utf8_append, ← ih hcs]
    rw [percentDecode]
    intro a b rest heq
    exact absurd heq.symm hc

theorem PlainName.readHost_eq (h : PlainName host) (ha : Allowed host) (hne : host ≠ []) : readHost host =
    if endsInNumber host then
      match fourNumbers? host with
      | some numbers => .ok (".".intercalate (numbers.map toString))
      | none => .error .fourNumbers
    else .ok (String.ofList host) := by
  have hopen : ¬ host.head? = some '[' := by
    intro hhead
    exact absurd (ha '[' (List.mem_of_mem_head? hhead)) (by decide)
  have hsign : '%' ∉ host := fun hc => absurd (ha '%' hc) (by decide)
  have hempty : ¬ host.isEmpty = true := by simpa using hne
  rw [readHost, if_neg hopen, percentDecode_plain hsign, ofUtf8?_utf8, Option.bind_some,
    String.toList_ofList, h.domain?_eq ha]
  exact if_neg hempty

theorem allowed_numbers (numbers : List Nat) :
    Allowed (['.'].intercalate (numbers.map (Nat.toDigits 10))) := by
  intro c hc
  rcases mem_numbers hc with rfl | hc
  · rfl
  · exact isForbidden_alphanum (by simp [Char.isAlphanum, hc])

theorem plainName_numbers {numbers : List Nat} (hne : numbers ≠ []) :
    PlainName (['.'].intercalate (numbers.map (Nat.toDigits 10))) := by
  refine ⟨fun c hc => ?_, fun label hlabel => ?_⟩
  · rcases mem_numbers hc with rfl | hc
    · decide
    · have hrange : '0' ≤ c ∧ c ≤ '9' := by simpa [Char.isDigit, Char.le_def] using hc
      have hhigh : c.toNat ≤ 57 := hrange.2
      refine ⟨by omega, ?_⟩
      refine dif_neg ?_
      rintro ⟨hcapital, -⟩
      have hlow : 65 ≤ c.toNat := hcapital
      omega
  · rw [splitAt_numbers hne] at hlabel
    obtain ⟨n, -, rfl⟩ := List.mem_map.mp hlabel
    intro hmark
    have hstart := List.isPrefixOf_iff_prefix.mp hmark
    have hx : 'x' ∈ Nat.toDigits 10 n := hstart.subset (by decide)
    exact absurd (isDigit_toDigits hx) (by decide)

theorem readHost_numbers {numbers : List Nat} (hlength : numbers.length = 4)
    (hsmall : ∀ n ∈ numbers, n < 256) : readHost (".".intercalate (numbers.map toString)).toList =
      .ok (".".intercalate (numbers.map toString)) := by
  have hne : numbers ≠ [] := List.ne_nil_of_length_pos (by omega)
  obtain ⟨hends, hfour⟩ := numbers_read hlength hsmall
  have hnonempty : ['.'].intercalate (numbers.map (Nat.toDigits 10)) ≠ [] := by
    intro hnil
    rw [hnil] at hends
    cases hends
  rw [toList_numbers, (plainName_numbers hne).readHost_eq (allowed_numbers _) hnonempty, if_pos hends, hfour]

theorem readHost_groups {groups : List Nat} (hlength : groups.length = 8) (h : ∀ n ∈ groups, n < 65536) :
    readHost (eightText groups).toList = .ok (eightText groups) := by
  obtain ⟨inner, htext, hread⟩ := exists_eightText hlength h
  rw [readHost, htext, if_pos (by simp), bracketed]
  have hinner : (('[' :: inner ++ [']']).drop 1).dropLast = inner := by simp
  rw [hinner, hread, List.getLast?_append]
  rfl

end Names

/-! ## The shape of hosts -/

/-- A name or four numbers, or groups in brackets. -/
inductive HostText : List Char → Prop where
  | name {host : List Char} (h : Allowed host) : HostText host
  | groups {inner : List Char} (h : ∀ c ∈ inner, c = ':' ∨ isForbidden c = false) :
    HostText ('[' :: inner ++ [']'])

section Hosts

variable {cs host inner rest : List Char} {written : String}

theorem isForbidden_digitChar (m : Nat) : isForbidden (Nat.digitChar m) = false := by
  by_cases hm : m < 16
  · have hall : ∀ k : Fin 16, isForbidden (Nat.digitChar k) = false := by decide
    exact hall ⟨m, hm⟩
  · have hstar : Nat.digitChar m = '*' := Nat.digitChar_eq_star.mpr (by omega)
    rw [hstar]
    rfl

theorem allowed_toString (n : Nat) : Allowed (toString n).toList := by
  intro c hc
  obtain ⟨m, rfl⟩ := mem_toDigits (by decide) (Nat.toList_repr ▸ hc)
  exact isForbidden_digitChar m

theorem mem_groupsText {groups : List Nat} {c : Char} (h : c ∈ (groupsText groups).toList) :
    c = ':' ∨ isForbidden c = false := by
  rw [groupsText, String.toList_intercalate] at h
  rcases mem_intercalate h with h | ⟨row, hrow, h⟩
  · exact .inl (List.mem_singleton.mp h)
  · obtain ⟨text, htext, rfl⟩ := List.mem_map.mp hrow
    obtain ⟨n, -, rfl⟩ := List.mem_map.mp htext
    rw [groupText, String.toList_ofList] at h
    obtain ⟨m, rfl⟩ := mem_toDigits (by decide) h
    exact .inr (isForbidden_digitChar m)

theorem hostText_eightText (groups : List Nat) : HostText (eightText groups).toList := by
  unfold eightText
  split
  next i n _ =>
    have htext : ("[" ++ groupsText (groups.take i) ++ "::" ++ groupsText (groups.drop (i + n)) ++
        "]").toList = '[' :: ((groupsText (groups.take i)).toList ++ ':' :: ':' ::
          (groupsText (groups.drop (i + n))).toList) ++ [']'] := by simp
    rw [htext]
    refine .groups fun c hc => ?_
    rcases List.mem_append.mp hc with hc | hc
    · exact mem_groupsText hc
    · rcases List.mem_cons.mp hc with hc | hc
      · exact .inl hc
      · rcases List.mem_cons.mp hc with hc | hc
        · exact .inl hc
        · exact mem_groupsText hc
  next =>
    have htext : ("[" ++ groupsText groups ++ "]").toList =
        '[' :: (groupsText groups).toList ++ [']'] := by simp
    rw [htext]
    exact .groups fun c hc => mem_groupsText hc

/-- What the reader of hosts can write. -/
inductive WrittenHost : String → Prop where
  | groups {groups : List Nat} (hlength : groups.length = 8) (hsmall : ∀ n ∈ groups, n < 65536) :
    WrittenHost (eightText groups)
  | numbers {numbers : List Nat} (hlength : numbers.length = 4) (hsmall : ∀ n ∈ numbers, n < 256) :
    WrittenHost (".".intercalate (numbers.map toString))
  | name {name : List Char} (h : Allowed name) (hne : name ≠ []) (hends : endsInNumber name = false) :
    WrittenHost (String.ofList name)

theorem writtenHost_readHost (h : readHost cs = .ok written) : WrittenHost written := by
  unfold readHost at h
  split at h
  next =>
    unfold bracketed at h
    split at h
    next groups _ hgroups =>
      cases h
      obtain ⟨hlength, hsmall⟩ := eightGroups?_spec hgroups
      exact .groups hlength hsmall
    next => cases h
  split at h
  next => cases h
  next name hdecoded =>
    obtain ⟨decoded, -, hdomain⟩ := Option.bind_eq_some_iff.mp hdecoded
    split at h
    next => cases h
    next hne =>
      split at h
      next =>
        split at h
        next numbers hnumbers =>
          cases h
          obtain ⟨hlength, hsmall⟩ := fourNumbers?_spec hnumbers
          exact .numbers hlength hsmall
        next => cases h
      next hends =>
        cases h
        exact .name (allowed_domain? hdomain) (by simpa using hne) (by simpa using hends)

theorem WrittenHost.text (h : WrittenHost written) : HostText written.toList := by
  cases h with
  | groups => exact hostText_eightText _
  | @numbers numbers =>
    rw [toList_numbers]
    exact .name (allowed_numbers numbers)
  | name h =>
    rw [String.toList_ofList]
    exact .name h

/-- A host is read as itself, unless it is a name with a capital letter, a character beyond ASCII or a label
that is marked. -/
theorem WrittenHost.again (h : WrittenHost written)
    (hname : written.toList.head? ≠ some '[' → PlainName written.toList) :
    readHost written.toList = .ok written := by
  cases h with
  | groups hlength hsmall => exact readHost_groups hlength hsmall
  | numbers hlength hsmall => exact readHost_numbers hlength hsmall
  | @name name hallowed hne hends =>
    rw [String.toList_ofList] at hname ⊢
    have hopen : name.head? ≠ some '[' := fun hhead =>
      absurd (hallowed '[' (List.mem_of_mem_head? hhead)) (by decide)
    rw [(hname hopen).readHost_eq hallowed hne, hends]
    rfl

theorem HostText.mem (h : HostText host) {c : Char} (hc : c ∈ host) :
    c = '[' ∨ c = ']' ∨ c = ':' ∨ isForbidden c = false := by
  cases h with
  | name h => exact .inr (.inr (.inr (h c hc)))
  | groups h =>
    rcases List.mem_append.mp hc with hc | hc
    · rcases List.mem_cons.mp hc with hc | hc
      · exact .inl hc
      · exact .inr (.inr (h c hc))
    · exact .inr (.inl (List.mem_singleton.mp hc))

theorem takeHost_name (h : ∀ c ∈ host, c ≠ ':' ∧ c ≠ '[') (hr : Stops (· != ':') rest) :
    takeHost false (host ++ rest) = host := by
  induction host with
  | nil =>
    cases rest with
    | nil => rfl
    | cons c rest =>
      have hc : c = ':' := by simpa using stops_cons.mp hr
      simp [takeHost, hc]
  | cons c host ih =>
    obtain ⟨⟨hcolon, hopen⟩, hhost⟩ := List.forall_mem_cons.mp h
    simp [takeHost, hcolon, hopen, ih hhost]

theorem takeHost_inside (h : ∀ c ∈ inner, c ≠ ']') :
    takeHost true (inner ++ ']' :: rest) = inner ++ ']' :: takeHost false rest := by
  induction inner with
  | nil => simp [takeHost]
  | cons c inner ih =>
    obtain ⟨hc, hinner⟩ := List.forall_mem_cons.mp h
    have hstays : (decide (c = '[') || (true && c != ']')) = true := by simp [hc]
    rw [List.cons_append, takeHost, if_neg (by simp), hstays, ih hinner, List.cons_append]

theorem HostText.takeHost_eq (h : HostText host) (hr : Stops (· != ':') rest) :
    takeHost false (host ++ rest) = host := by
  cases h with
  | name h => exact takeHost_name (fun c hc => ⟨ne_of_class (h c hc) rfl, ne_of_class (h c hc) rfl⟩) hr
  | @groups inner h =>
    have hinner : ∀ c ∈ inner, c ≠ ']' := by
      intro c hc
      rcases h c hc with rfl | hc
      · decide
      · exact ne_of_class hc rfl
    have hrest : takeHost false ([] ++ rest) = [] := takeHost_name (by simp) hr
    rw [List.nil_append] at hrest
    have htext : '[' :: inner ++ [']'] ++ rest = '[' :: (inner ++ ']' :: rest) := by simp
    rw [htext]
    simp [takeHost, takeHost_inside hinner, hrest]

end Hosts

end BearerTokens.Url
