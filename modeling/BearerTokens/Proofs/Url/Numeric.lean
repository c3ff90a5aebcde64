import Mathlib.Data.Nat.Digits.Lemmas
import Mathlib.Tactic.NormNum
import Mathlib.Tactic.Ring
import BearerTokens.Proofs.Url.Names
import BearerTokens.Url.Numeric

/-! # Numeric hosts are read back

An address of four numbers is written with each of them in its digits to base ten, one of eight groups in
digits to base sixteen, with two colons in place of its longest run of zeros.  From either text the same numbers
are read.
-/

namespace BearerTokens.Url

open Text.Form (digitValue?)

/-! ## Four numbers -/

section Numbers

variable {digits name : List Char} {numbers : List Nat}

theorem mem_toDigits {b n : Nat} {c : Char} (hb : 1 < b) (h : c ∈ Nat.toDigits b n) :
    ∃ m, c = Nat.digitChar m := by
  induction n using Nat.strongRecOn with
  | _ n ih =>
    by_cases hlt : n < b
    · rw [Nat.toDigits_of_lt_base hlt] at h
      exact ⟨n, List.mem_singleton.mp h⟩
    · rw [Nat.toDigits_of_base_le hb (by omega)] at h
      rcases List.mem_append.mp h with h | h
      · exact ih (n / b) (Nat.div_lt_self (by omega) hb) h
      · exact ⟨n % b, List.mem_singleton.mp h⟩

theorem digitValue?_isDigit {c : Char} (h : c.isDigit = true) :
    digitValue? c = some (c.toNat - 48) ∧ c.toNat - 48 < 10 := by
  have hrange : '0' ≤ c ∧ c ≤ '9' := by simpa [Char.isDigit, Char.le_def] using h
  have hlow : 48 ≤ c.toNat := hrange.1
  have hhigh : c.toNat ≤ 57 := hrange.2
  exact ⟨by rw [digitValue?, if_pos hrange], by omega⟩

theorem foldlM_digits (h : ∀ c ∈ digits, c.isDigit = true) (n : Nat) :
    digits.foldlM (fun n c => do
      let v ← digitValue? c
      if v < 10 then some (n * 10 + v) else none) n = some (Nat.ofDigitChars 10 digits n) := by
  induction digits generalizing n with
  | nil => rfl
  | cons c digits ih =>
    obtain ⟨hc, hdigits⟩ := List.forall_mem_cons.mp h
    obtain ⟨hvalue, hlt⟩ := digitValue?_isDigit hc
    have hstep : (do
        let v ← digitValue? c
        if v < 10 then some (n * 10 + v) else none) = some (10 * n + (c.toNat - 48)) := by
      rw [hvalue, Nat.mul_comm 10 n]
      exact if_pos hlt
    rw [List.foldlM_cons, hstep, Nat.ofDigitChars_cons]
    exact ih hdigits _

theorem head?_toDigits {n : Nat} (h : 0 < n) : (Nat.toDigits 10 n).head? ≠ some '0' := by
  induction n using Nat.strongRecOn with
  | _ n ih =>
    by_cases hlt : n < 10
    · rw [Nat.toDigits_of_lt_base hlt]
      simp
      omega
    · rw [Nat.toDigits_of_base_le (by decide) (by omega), List.head?_append_of_ne_nil]
      · exact ih (n / 10) (by omega) (by omega)
      · exact Nat.toDigits_ne_nil

theorem isDigit_toDigits {n : Nat} {c : Char} (hc : c ∈ Nat.toDigits 10 n) : c.isDigit = true :=
  Nat.isDigit_of_mem_toDigits (by decide) (by decide) hc

theorem hostNumber?_toDigits (n : Nat) : hostNumber? (Nat.toDigits 10 n) = some n := by
  have hvalue := foldlM_digits (fun c (hc : c ∈ Nat.toDigits 10 n) => isDigit_toDigits hc) 0
  rw [Nat.ofDigitChars_ten_toDigits] at hvalue
  by_cases hn : n = 0
  · subst hn
    rfl
  · have hhead := head?_toDigits (Nat.pos_of_ne_zero hn)
    obtain ⟨c, rest, hcs⟩ : ∃ c rest, Nat.toDigits 10 n = c :: rest :=
      List.exists_cons_of_ne_nil Nat.toDigits_ne_nil
    rw [hcs] at hhead hvalue ⊢
    have hc : c ≠ '0' := by simpa using hhead
    rw [hostNumber?]
    · exact hvalue
    all_goals simp [hc]

theorem fourNumbers?_spec (h : fourNumbers? name = some numbers) :
    numbers.length = 4 ∧ ∀ n ∈ numbers, n < 256 := by
  simp only [fourNumbers?, Option.bind_eq_bind, Option.bind_eq_some_iff] at h
  obtain ⟨read, -, last, -, h⟩ := h
  split at h
  next hfits =>
    cases h
    simp only [Bool.and_eq_true, decide_eq_true_eq, List.all_eq_true] at hfits
    refine ⟨?_, fun n hn => ?_⟩
    · rw [List.length_append, List.length_map, List.length_reverse, List.length_range]
      omega
    rcases List.mem_append.mp hn with hn | hn
    · exact hfits.1.2 n hn
    · obtain ⟨i, -, rfl⟩ := List.mem_map.mp hn
      exact Nat.mod_lt _ (by decide)
  next => cases h

theorem toList_numbers (numbers : List Nat) : (".".intercalate (numbers.map toString)).toList =
    ['.'].intercalate (numbers.map (Nat.toDigits 10)) := by
  rw [String.toList_intercalate, List.map_map]
  congr 1
  exact List.map_congr_left fun n _ => Nat.toList_repr

theorem splitAt_numbers (hne : numbers ≠ []) :
    splitAt (· == '.') (['.'].intercalate (numbers.map (Nat.toDigits 10))) =
      numbers.map (Nat.toDigits 10) := by
  refine splitAt_intercalate (by decide) (by simpa using hne) fun row hrow c hc => ?_
  obtain ⟨n, -, rfl⟩ := List.mem_map.mp hrow
  have hdigit := isDigit_toDigits hc
  by_contra hdot
  obtain rfl : c = '.' := by simpa using hdot
  exact absurd hdigit (by decide)

theorem mem_numbers {c : Char} (hc : c ∈ ['.'].intercalate (numbers.map (Nat.toDigits 10))) :
    c = '.' ∨ c.isDigit = true := by
  rcases mem_intercalate hc with hc | ⟨row, hrow, hc⟩
  · exact .inl (List.mem_singleton.mp hc)
  · obtain ⟨n, -, rfl⟩ := List.mem_map.mp hrow
    exact .inr (isDigit_toDigits hc)

theorem withoutLastEmpty_numbers (numbers : List Nat) :
    withoutLastEmpty (numbers.map (Nat.toDigits 10)) = numbers.map (Nat.toDigits 10) := by
  rw [withoutLastEmpty, if_neg]
  rintro ⟨hlast, -⟩
  rw [List.getLast?_map, Option.map_eq_some_iff] at hlast
  obtain ⟨n, -, hempty⟩ := hlast
  exact Nat.toDigits_ne_nil hempty

/-- The four numbers of an address are read back from its text. -/
theorem numbers_read (hlength : numbers.length = 4) (hsmall : ∀ n ∈ numbers, n < 256) :
    endsInNumber (['.'].intercalate (numbers.map (Nat.toDigits 10))) = true ∧
      fourNumbers? (['.'].intercalate (numbers.map (Nat.toDigits 10))) = some numbers := by
  obtain ⟨a, b, c, d, rfl⟩ : ∃ a b c d, numbers = [a, b, c, d] := by
    match numbers, hlength with
    | [a, b, c, d], _ => exact ⟨a, b, c, d, rfl⟩
  have hmapM : ([a, b, c, d].map (Nat.toDigits 10)).mapM hostNumber? = some [a, b, c, d] := by
    simp [List.mapM_cons, hostNumber?_toDigits]
  have hparts : withoutLastEmpty (splitAt (· == '.')
      (['.'].intercalate ([a, b, c, d].map (Nat.toDigits 10)))) = [a, b, c, d].map (Nat.toDigits 10) := by
    rw [splitAt_numbers (List.cons_ne_nil _ _), withoutLastEmpty_numbers]
  have hlast : d < 256 := hsmall d (by simp)
  have hlead : a < 256 ∧ b < 256 ∧ c < 256 :=
    ⟨hsmall a (by simp), hsmall b (by simp), hsmall c (by simp)⟩
  constructor
  · rw [endsInNumber, hparts]
    simp [hostNumber?_toDigits]
  · simp only [fourNumbers?, hparts, hmapM, Option.bind_eq_bind, Option.bind_some]
    simp [hlead, hlast, Nat.mod_eq_of_lt hlast]

end Numbers

/-! ## Eight groups -/

section Groups

variable {cs rest : List Char} {groups : List Nat} {rows : List (List Char)} {i n : Nat}

theorem digitValue?_lt {c : Char} {v : Nat} (h : digitValue? c = some v) : v < 16 := by
  unfold digitValue? at h
  split at h
  next hc =>
    have hhigh : c.toNat ≤ 57 := hc.2
    simp at h
    omega
  split at h
  next hc =>
    have hhigh : c.toNat ≤ 70 := hc.2
    simp at h
    omega
  split at h
  next hc =>
    have hhigh : c.toNat ≤ 102 := hc.2
    simp at h
    omega
  next => cases h

theorem foldlM_lt {v : Nat} (h : cs.foldlM (fun n c => (digitValue? c).map (n * 16 + ·)) n = some v) :
    v < (n + 1) * 16 ^ cs.length := by
  induction cs generalizing n with
  | nil =>
    obtain rfl : n = v := by simpa using h
    simp
  | cons c cs ih =>
    simp only [List.foldlM_cons, Option.bind_eq_bind, Option.bind_eq_some_iff,
      Option.map_eq_some_iff] at h
    obtain ⟨m, ⟨d, hd, rfl⟩, h⟩ := h
    have hlt := digitValue?_lt hd
    calc v < (n * 16 + d + 1) * 16 ^ cs.length := ih h
      _ ≤ ((n + 1) * 16) * 16 ^ cs.length := Nat.mul_le_mul_right _ (by omega)
      _ = (n + 1) * 16 ^ (c :: cs).length := by rw [List.length_cons, pow_succ]; ring

theorem groupValue?_lt {v : Nat} (h : groupValue? cs = some v) : v < 65536 := by
  unfold groupValue? at h
  split at h
  next => cases h
  next hfits =>
    have hlength : cs.length ≤ 4 := by simp at hfits; omega
    calc v < (0 + 1) * 16 ^ cs.length := foldlM_lt h
      _ ≤ (0 + 1) * 16 ^ 4 := Nat.mul_le_mul_left _ (Nat.pow_le_pow_right (by decide) hlength)
      _ = 65536 := by norm_num

theorem groups?_lt {isEnd : Bool} (h : groups? isEnd rows = some groups) : ∀ n ∈ groups, n < 65536 := by
  induction rows generalizing groups with
  | nil =>
    cases h
    simp
  | cons row rows ih =>
    cases rows with
    | nil =>
      rw [groups?] at h
      split at h
      next =>
        simp only [Option.bind_eq_bind, Option.bind_eq_some_iff] at h
        obtain ⟨numbers, -, h⟩ := h
        split at h
        next a b c d =>
          split at h
          next hall =>
            cases h
            simp at hall
            simp
            omega
          next => cases h
        next => cases h
      next =>
        obtain ⟨v, hv, rfl⟩ := Option.map_eq_some_iff.mp h
        simpa using groupValue?_lt hv
    | cons next rows =>
      rw [groups?] at h
      · simp only [Option.bind_eq_bind, Option.bind_eq_some_iff] at h
        obtain ⟨v, hv, others, hothers, h⟩ := h
        cases h
        exact List.forall_mem_cons.mpr ⟨groupValue?_lt hv, ih hothers⟩
      · simp

theorem groupsOf?_lt {isEnd : Bool} (h : groupsOf? isEnd cs = some groups) : ∀ n ∈ groups, n < 65536 := by
  unfold groupsOf? at h
  split at h
  next =>
    cases h
    simp
  next => exact groups?_lt h

theorem eightGroups?_spec (h : eightGroups? cs = some groups) :
    groups.length = 8 ∧ ∀ n ∈ groups, n < 65536 := by
  unfold eightGroups? at h
  split at h
  next =>
    simp only [Option.bind_eq_bind, Option.bind_eq_some_iff] at h
    obtain ⟨all, hall, h⟩ := h
    split at h
    next hlength =>
      cases h
      exact ⟨hlength, groupsOf?_lt hall⟩
    next => cases h
  next =>
    simp only [Option.bind_eq_bind, Option.bind_eq_some_iff] at h
    obtain ⟨before, hbefore, after, hafter, h⟩ := h
    split at h
    next hlength =>
      cases h
      refine ⟨by simp; omega, fun n hn => ?_⟩
      simp only [List.mem_append, List.mem_replicate] at hn
      rcases hn with (hn | hn) | hn
      · exact groupsOf?_lt hbefore n hn
      · omega
      · exact groupsOf?_lt hafter n hn
    next => cases h

/-! ### The text of groups -/

theorem digitValue?_digitChar {m : Nat} (h : m < 16) : digitValue? (Nat.digitChar m) = some m := by
  have hall : ∀ k : Fin 16, digitValue? (Nat.digitChar k) = some k.val := by decide
  exact hall ⟨m, h⟩

theorem foldlM_toDigits (n : Nat) :
    (Nat.toDigits 16 n).foldlM (fun n c => (digitValue? c).map (n * 16 + ·)) 0 = some n := by
  induction n using Nat.strongRecOn with
  | _ n ih =>
    by_cases hlt : n < 16
    · rw [Nat.toDigits_of_lt_base hlt]
      simp [digitValue?_digitChar hlt]
    · have hmod := Nat.mod_lt n (by decide : 0 < 16)
      rw [Nat.toDigits_of_base_le (by decide) (by omega), List.foldlM_append, ih (n / 16) (by omega)]
      simp [digitValue?_digitChar hmod]
      omega

theorem groupValue?_toDigits (h : n < 65536) : groupValue? (Nat.toDigits 16 n) = some n := by
  have hlength : (Nat.toDigits 16 n).length ≤ 4 :=
    (Nat.length_toDigits_le_iff (by decide) (by decide)).mpr h
  have hempty : (Nat.toDigits 16 n).isEmpty = false :=
    List.isEmpty_eq_false_iff.mpr Nat.toDigits_ne_nil
  rw [groupValue?, if_neg (by simp [hempty]; omega)]
  exact foldlM_toDigits n

theorem sign_not_mem_toDigits {sign : Char} (hs : ∀ m < 16, Nat.digitChar m ≠ sign) (hstar : sign ≠ '*')
    (n : Nat) : sign ∉ Nat.toDigits 16 n := by
  intro hc
  obtain ⟨m, rfl⟩ := mem_toDigits (by decide) hc
  by_cases hm : m < 16
  · exact hs m hm rfl
  · exact hstar (Nat.digitChar_eq_star.mpr (by omega))

theorem groups?_toDigits {isEnd : Bool} (h : ∀ n ∈ groups, n < 65536) :
    groups? isEnd (groups.map (Nat.toDigits 16)) = some groups := by
  induction groups with
  | nil => rfl
  | cons n groups ih =>
    obtain ⟨hn, hgroups⟩ := List.forall_mem_cons.mp h
    cases groups with
    | nil =>
      have hdot : (Nat.toDigits 16 n).contains '.' = false := by
        simpa [List.contains_iff_mem] using sign_not_mem_toDigits (by decide) (by decide) n
      simp only [List.map_cons, List.map_nil, groups?, hdot, Bool.and_false, groupValue?_toDigits hn]
      rfl
    | cons next groups =>
      have hrest := ih hgroups
      rw [List.map_cons] at hrest
      rw [List.map_cons, List.map_cons, groups?, groupValue?_toDigits hn, hrest]
      · rfl
      · simp

theorem toList_groupsText (groups : List Nat) :
    (groupsText groups).toList = [':'].intercalate (groups.map (Nat.toDigits 16)) := by
  rw [groupsText, String.toList_intercalate, List.map_map]
  congr 1
  exact List.map_congr_left fun n _ => String.toList_ofList

theorem colon_not_mem (n : Nat) : ':' ∉ Nat.toDigits 16 n :=
  sign_not_mem_toDigits (by decide) (by decide) n

theorem groupsOf?_groupsText {isEnd : Bool} (h : ∀ n ∈ groups, n < 65536) :
    groupsOf? isEnd (groupsText groups).toList = some groups := by
  rw [toList_groupsText]
  cases groups with
  | nil => rfl
  | cons n groups =>
    have hsplit : splitAt (· == ':') ([':'].intercalate ((n :: groups).map (Nat.toDigits 16))) =
        (n :: groups).map (Nat.toDigits 16) := by
      refine splitAt_intercalate (by decide) (List.cons_ne_nil _ _) fun row hrow c hc => ?_
      obtain ⟨m, -, rfl⟩ := List.mem_map.mp hrow
      by_contra hcolon
      obtain rfl : c = ':' := by simpa using hcolon
      exact colon_not_mem m hc
    have hempty : ([':'].intercalate ((n :: groups).map (Nat.toDigits 16))).isEmpty = false := by
      rw [List.isEmpty_eq_false_iff]
      intro hnil
      rw [hnil] at hsplit
      have hhead : [] = Nat.toDigits 16 n := (List.cons.inj hsplit).1
      exact Nat.toDigits_ne_nil hhead.symm
    rw [groupsOf?, hempty, hsplit]
    exact groups?_toDigits h

theorem cutDouble_append {row : List Char} (h : ':' ∉ row) :
    cutDouble (row ++ rest) = (row ++ (cutDouble rest).1, (cutDouble rest).2) := by
  induction row with
  | nil => rfl
  | cons c row ih =>
    obtain ⟨hc, hrow⟩ := not_or.mp (mt List.mem_cons.mpr h)
    rw [List.cons_append, cutDouble, ih hrow]
    · rfl
    · rintro more heq
      exact absurd heq.symm hc

theorem cutDouble_colon {c : Char} (h : c ≠ ':') :
    cutDouble (':' :: c :: rest) = (':' :: (cutDouble (c :: rest)).1, (cutDouble (c :: rest)).2) := by
  rw [cutDouble]
  rintro more - heq
  exact absurd (List.cons.inj heq).1 h

/-- No two colons stand together in the text of groups. -/
theorem cutDouble_groupsText (groups : List Nat) (rest : List Char) :
    cutDouble ((groupsText groups).toList ++ rest) =
      ((groupsText groups).toList ++ (cutDouble rest).1, (cutDouble rest).2) := by
  rw [toList_groupsText]
  induction groups with
  | nil => rfl
  | cons n groups ih =>
    cases groups with
    | nil =>
      rw [List.map_singleton, List.intercalate_singleton]
      exact cutDouble_append (colon_not_mem n)
    | cons next groups =>
      obtain ⟨c, digits, hdigits⟩ : ∃ c digits, Nat.toDigits 16 next = c :: digits :=
        List.exists_cons_of_ne_nil Nat.toDigits_ne_nil
      have hc : c ≠ ':' := by
        rintro rfl
        exact colon_not_mem next (hdigits ▸ List.mem_cons_self)
      obtain ⟨more, hmore⟩ : ∃ more, [':'].intercalate ((next :: groups).map (Nat.toDigits 16)) =
          c :: more := by
        rw [List.map_cons, hdigits]
        cases groups with
        | nil => exact ⟨digits, List.intercalate_singleton⟩
        | cons => exact ⟨_, List.intercalate_cons_cons⟩
      rw [hmore] at ih
      rw [List.map_cons, List.map_cons, List.intercalate_cons_cons, ← List.map_cons, hmore]
      simp only [List.append_assoc, List.cons_append, List.nil_append] at ih ⊢
      rw [cutDouble_append (colon_not_mem n), cutDouble_colon hc, ih]

/-! ### The run of zeros -/

theorem longestZeros_spec (h : longestZeros groups = some (i, n)) :
    2 ≤ n ∧ n = zeroRun (groups.drop i) := by
  revert i n
  rw [longestZeros]
  refine List.foldlRecOn (motive := fun best : Option (Nat × Nat) => ∀ {i n}, best = some (i, n) →
    2 ≤ n ∧ n = zeroRun (groups.drop i)) _ _ (by simp) ?_
  intro best hbest j _ i n hn
  split at hn
  next k m =>
    dsimp only at hn
    split at hn
    next hlonger =>
      cases hn
      have hm := (hbest rfl).1
      exact ⟨by omega, rfl⟩
    next => exact hbest hn
  next =>
    dsimp only at hn
    split at hn
    next htwo =>
      cases hn
      exact ⟨htwo, rfl⟩
    next => cases hn

theorem drop_eq_zeros (groups : List Nat) (i : Nat) : groups.drop i =
    List.replicate (zeroRun (groups.drop i)) 0 ++ groups.drop (i + zeroRun (groups.drop i)) := by
  have hzeros : (groups.drop i).takeWhile (· == 0) = List.replicate (zeroRun (groups.drop i)) 0 := by
    refine List.eq_replicate_iff.mpr ⟨rfl, fun m hm => ?_⟩
    simpa using List.all_eq_true.mp List.all_takeWhile m hm
  have hstart : (groups.drop i).takeWhile (· == 0) <+: groups.drop i := List.takeWhile_prefix _
  calc groups.drop i = (groups.drop i).takeWhile (· == 0) ++
        (groups.drop i).drop (zeroRun (groups.drop i)) :=
        (List.prefix_iff_eq_append.mp hstart).symm
    _ = _ := by rw [hzeros, List.drop_drop]

/-- The text of an address in brackets, without them. -/
theorem exists_eightText (hlength : groups.length = 8) (h : ∀ n ∈ groups, n < 65536) :
    ∃ inner, (eightText groups).toList = '[' :: inner ++ [']'] ∧ eightGroups? inner = some groups := by
  unfold eightText
  split
  next i n hzeros =>
    obtain ⟨htwo, hn⟩ := longestZeros_spec hzeros
    refine ⟨(groupsText (groups.take i)).toList ++ ':' :: ':' ::
      (groupsText (groups.drop (i + n))).toList, by simp, ?_⟩
    have hcut : cutDouble (':' :: ':' :: (groupsText (groups.drop (i + n))).toList) =
        ([], some (groupsText (groups.drop (i + n))).toList) := rfl
    have hbefore : ∀ m ∈ groups.take i, m < 65536 := fun m hm => h m (List.mem_of_mem_take hm)
    have hafter : ∀ m ∈ groups.drop (i + n), m < 65536 := fun m hm => h m (List.mem_of_mem_drop hm)
    have hdrop := drop_eq_zeros groups i
    rw [← hn] at hdrop
    have hparts : groups.take i ++ (List.replicate n 0 ++ groups.drop (i + n)) = groups := by
      rw [← hdrop, List.take_append_drop]
    have hcount := congrArg List.length hparts
    rw [hlength, List.length_append, List.length_append, List.length_replicate] at hcount
    rw [eightGroups?, cutDouble_groupsText, hcut, List.append_nil]
    have hzeros : 8 - (groups.take i).length - (groups.drop (i + n)).length = n := by omega
    simp only [groupsOf?_groupsText hbefore, groupsOf?_groupsText hafter, Option.bind_eq_bind,
      Option.bind_some]
    rw [if_pos (by omega), hzeros, List.append_assoc, hparts]
  next =>
    have hcut := cutDouble_groupsText groups []
    rw [List.append_nil] at hcut
    refine ⟨(groupsText groups).toList, by simp, ?_⟩
    rw [eightGroups?, hcut]
    simp [cutDouble, groupsOf?_groupsText h, hlength]

end Groups

end BearerTokens.Url
