import Mathlib.Data.List.Induction
import BearerTokens.Text.Base64

/-! # Base64 is read as it is written

A row of symbols decodes to some bytes just where it is what those bytes are written as: unused bits that
are not zero, left-over symbols and symbols of other alphabets are refused.  Behind the symbols a lenient
reader takes any number of closing signs up to those of the whole group.
-/

namespace BearerTokens.Text.Base64

/-- The two symbols of its own are told from each other, from letters and digits and from the closing
sign. -/
structure Alphabet.Lawful (a : Alphabet) : Prop where
  plus : a.plus.isAlphanum = false
  slash : a.slash.isAlphanum = false
  distinct : a.plus ≠ a.slash
  sign : a.plus ≠ '=' ∧ a.slash ≠ '='

theorem lawful_urlSafe : urlSafe.Lawful := ⟨by decide, by decide, by decide, by decide⟩

theorem lawful_standard : standard.Lawful := ⟨by decide, by decide, by decide, by decide⟩

/-! ## Symbols -/

variable {a : Alphabet} {c : Char} {v : Nat}

theorem toNat_ofNat (h : v < 128) : (Char.ofNat v).toNat = v := by
  have hvalid : v.isValidChar := .inl (by omega)
  rw [Char.ofNat, dif_pos hvalid]
  rfl

theorem value?_eq (a : Alphabet) (c : Char) : value? a c =
    if 65 ≤ c.toNat ∧ c.toNat ≤ 90 then some (c.toNat - 65)
    else if 97 ≤ c.toNat ∧ c.toNat ≤ 122 then some (c.toNat - 97 + 26)
    else if 48 ≤ c.toNat ∧ c.toNat ≤ 57 then some (c.toNat - 48 + 52)
    else if c = a.plus then some 62
    else if c = a.slash then some 63
    else none := rfl

theorem isAlphanum_iff (c : Char) : c.isAlphanum = true ↔
    (65 ≤ c.toNat ∧ c.toNat ≤ 90) ∨ (97 ≤ c.toNat ∧ c.toNat ≤ 122) ∨
      (48 ≤ c.toNat ∧ c.toNat ≤ 57) := by
  have hparts : c.isAlphanum = (decide (c.val ≥ 'A'.val ∧ c.val ≤ 'Z'.val) ||
      (decide (c.val ≥ 'a'.val) && decide (c.val ≤ 'z'.val)) ||
        (decide (c.val ≥ '0'.val) && decide (c.val ≤ '9'.val))) := rfl
  rw [hparts]
  simp only [Bool.or_eq_true, Bool.and_eq_true, decide_eq_true_iff, or_assoc]
  rfl

theorem value?_of_not_isAlphanum (h : c.isAlphanum = false) : value? a c =
    if c = a.plus then some 62 else if c = a.slash then some 63 else none := by
  have hranges := mt (isAlphanum_iff c).mpr (Bool.eq_false_iff.mp h)
  simp only [not_or] at hranges
  rw [value?_eq, if_neg hranges.1, if_neg hranges.2.1, if_neg hranges.2.2]

theorem value?_symbol (ha : a.Lawful) (hv : v < 64) : value? a (symbol a v) = some v := by
  unfold symbol
  split
  next h =>
    have hc : (Char.ofNat (65 + v)).toNat = 65 + v := toNat_ofNat (by omega)
    rw [value?_eq, hc, if_pos (by omega), Nat.add_sub_cancel_left]
  split
  next h =>
    have hc : (Char.ofNat (97 + (v - 26))).toNat = 97 + (v - 26) := toNat_ofNat (by omega)
    rw [value?_eq, hc, if_neg (by omega), if_pos (by omega)]
    exact congrArg some (by omega)
  split
  next h =>
    have hc : (Char.ofNat (48 + (v - 52))).toNat = 48 + (v - 52) := toNat_ofNat (by omega)
    rw [value?_eq, hc, if_neg (by omega), if_neg (by omega), if_pos (by omega)]
    exact congrArg some (by omega)
  split
  next h => rw [value?_of_not_isAlphanum ha.plus, if_pos rfl, h]
  next h =>
    have hlast : v = 63 := by omega
    rw [value?_of_not_isAlphanum ha.slash, if_neg ha.distinct.symm, if_pos rfl, hlast]

theorem symbol_of_value? (h : value? a c = some v) : v < 64 ∧ symbol a v = c := by
  rw [value?_eq] at h
  split at h
  next hc =>
    obtain rfl := Option.some.inj h
    have hback : 65 + (c.toNat - 65) = c.toNat := by omega
    rw [symbol, if_pos (by omega), hback, Char.ofNat_toNat]
    exact ⟨by omega, rfl⟩
  split at h
  next hc =>
    obtain rfl := Option.some.inj h
    have hback : 97 + (c.toNat - 97 + 26 - 26) = c.toNat := by omega
    rw [symbol, if_neg (by omega), if_pos (by omega), hback, Char.ofNat_toNat]
    exact ⟨by omega, rfl⟩
  split at h
  next hc =>
    obtain rfl := Option.some.inj h
    have hback : 48 + (c.toNat - 48 + 52 - 52) = c.toNat := by omega
    rw [symbol, if_neg (by omega), if_neg (by omega), if_pos (by omega), hback, Char.ofNat_toNat]
    exact ⟨by omega, rfl⟩
  split at h
  next hc =>
    obtain rfl := Option.some.inj h
    exact ⟨by decide, hc.symm⟩
  split at h
  next hc =>
    obtain rfl := Option.some.inj h
    exact ⟨by decide, hc.symm⟩
  next => cases h

theorem value?_sign (ha : a.Lawful) : value? a '=' = none := by
  have hsign : ('=').isAlphanum = false := by decide
  rw [value?_of_not_isAlphanum hsign, if_neg ha.sign.1.symm, if_neg ha.sign.2.symm]

theorem symbol_ne_sign (ha : a.Lawful) (hv : v < 64) : symbol a v ≠ '=' := by
  intro hsign
  have hvalue := value?_symbol ha hv
  rw [hsign, value?_sign ha] at hvalue
  cases hvalue

/-! ## Groups

The first byte of a group has six of its bits in the first symbol, the second byte four in the second symbol
and the third byte two in the third.  The rest of each stand in the symbol behind it.
-/

theorem ofNat_first (x : UInt8) {n : Nat} (hn : n < 16) :
    UInt8.ofNat (x.toNat / 4 * 4 + (x.toNat % 4 * 16 + n) / 16) = x := by
  have hback : x.toNat / 4 * 4 + (x.toNat % 4 * 16 + n) / 16 = x.toNat := by omega
  rw [hback, UInt8.ofNat_toNat]

theorem ofNat_second (y : UInt8) (m : Nat) {n : Nat} (hn : n < 4) :
    UInt8.ofNat ((m * 16 + y.toNat / 16) % 16 * 16 + (y.toNat % 16 * 4 + n) / 4) = y := by
  have hy := y.toNat_lt
  have hback : (m * 16 + y.toNat / 16) % 16 * 16 + (y.toNat % 16 * 4 + n) / 4 = y.toNat := by omega
  rw [hback, UInt8.ofNat_toNat]

theorem ofNat_third (z : UInt8) (m : Nat) :
    UInt8.ofNat ((m * 4 + z.toNat / 64) % 4 * 64 + z.toNat % 64) = z := by
  have hz := z.toNat_lt
  have hback : (m * 4 + z.toNat / 64) % 4 * 64 + z.toNat % 64 = z.toNat := by omega
  rw [hback, UInt8.ofNat_toNat]

theorem toNat_joined {m n high low : Nat} (hmn : m * n = 256) (hh : high < m) (hl : low < n) :
    (UInt8.ofNat (high * n + low)).toNat / n = high ∧ (UInt8.ofNat (high * n + low)).toNat % n = low := by
  have hlt : high * n + low < 256 := by
    calc high * n + low < high * n + n := Nat.add_lt_add_left hl _
      _ = (high + 1) * n := (Nat.succ_mul high n).symm
      _ ≤ m * n := Nat.mul_le_mul_right n hh
      _ = 256 := hmn
  have hpos : 0 < n := Nat.zero_lt_of_lt hl
  rw [UInt8.toNat_ofNat_of_lt' hlt, Nat.mul_comm]
  exact ⟨by rw [Nat.mul_add_div hpos, Nat.div_eq_of_lt hl, Nat.add_zero],
    by rw [Nat.mul_add_mod, Nat.mod_eq_of_lt hl]⟩

theorem decode_encode (ha : a.Lawful) (bytes : List UInt8) : decode a (encode a bytes) = some bytes := by
  fun_induction encode a bytes with
  | case1 => rfl
  | case2 x =>
    have hx := x.toNat_lt
    have hu := value?_symbol ha (v := x.toNat / 4) (by omega)
    have hv := value?_symbol ha (v := x.toNat % 4 * 16) (by omega)
    have hfirst := ofNat_first x (n := 0) (by decide)
    rw [Nat.add_zero] at hfirst
    simp only [decode, hu, hv, Option.bind_eq_bind, Option.bind_some, hfirst]
    exact if_pos (by omega)
  | case3 x y =>
    have hx := x.toNat_lt
    have hy := y.toNat_lt
    have hu := value?_symbol ha (v := x.toNat / 4) (by omega)
    have hv := value?_symbol ha (v := x.toNat % 4 * 16 + y.toNat / 16) (by omega)
    have hw := value?_symbol ha (v := y.toNat % 16 * 4) (by omega)
    have hfirst := ofNat_first x (n := y.toNat / 16) (by omega)
    have hsecond := ofNat_second y (x.toNat % 4) (n := 0) (by decide)
    rw [Nat.add_zero] at hsecond
    simp only [decode, hu, hv, hw, Option.bind_eq_bind, Option.bind_some, hfirst, hsecond]
    exact if_pos (by omega)
  | case4 x y z rest ih =>
    have hx := x.toNat_lt
    have hy := y.toNat_lt
    have hz := z.toNat_lt
    have hu := value?_symbol ha (v := x.toNat / 4) (by omega)
    have hv := value?_symbol ha (v := x.toNat % 4 * 16 + y.toNat / 16) (by omega)
    have hw := value?_symbol ha (v := y.toNat % 16 * 4 + z.toNat / 64) (by omega)
    have hl := value?_symbol ha (v := z.toNat % 64) (by omega)
    have hfirst := ofNat_first x (n := y.toNat / 16) (by omega)
    have hsecond := ofNat_second y (x.toNat % 4) (n := z.toNat / 64) (by omega)
    have hthird := ofNat_third z (y.toNat % 16)
    simp only [decode, hu, hv, hw, hl, ih, Option.bind_eq_bind, Option.bind_some, hfirst, hsecond,
      hthird]

theorem encode_of_decode {cs : List Char} {bytes : List UInt8} (h : decode a cs = some bytes) :
    encode a bytes = cs := by
  have hfirst {u v : Nat} (hu : u < 64) (hv : v < 64) :=
    toNat_joined (m := 64) (n := 4) rfl hu (Nat.div_lt_of_lt_mul hv : v / 16 < 4)
  have hsecond {v w : Nat} (hw : w < 64) :=
    toNat_joined (n := 16) rfl (Nat.mod_lt v (by decide : 0 < 16))
      (Nat.div_lt_of_lt_mul hw : w / 4 < 16)
  have hthird {w x : Nat} (hx : x < 64) :=
    toNat_joined (n := 64) rfl (Nat.mod_lt w (by decide : 0 < 4)) hx
  fun_induction decode a cs generalizing bytes with
  | case1 =>
    cases h
    rfl
  | case2 => cases h
  | case3 c d =>
    simp only [Option.bind_eq_bind, Option.bind_eq_some_iff] at h
    obtain ⟨u, hu, v, hv, h⟩ := h
    obtain ⟨hul, rfl⟩ := symbol_of_value? hu
    obtain ⟨hvl, rfl⟩ := symbol_of_value? hv
    split at h
    next hz =>
      cases h
      rw [encode, (hfirst hul hvl).1, (hfirst hul hvl).2,
        Nat.div_mul_cancel (Nat.dvd_of_mod_eq_zero hz)]
    next => cases h
  | case4 c d e =>
    simp only [Option.bind_eq_bind, Option.bind_eq_some_iff] at h
    obtain ⟨u, hu, v, hv, w, hw, h⟩ := h
    obtain ⟨hul, rfl⟩ := symbol_of_value? hu
    obtain ⟨hvl, rfl⟩ := symbol_of_value? hv
    obtain ⟨hwl, rfl⟩ := symbol_of_value? hw
    split at h
    next hz =>
      cases h
      rw [encode, (hfirst hul hvl).1, (hfirst hul hvl).2, (hsecond hwl).1, (hsecond hwl).2,
        Nat.div_add_mod', Nat.div_mul_cancel (Nat.dvd_of_mod_eq_zero hz)]
    next => cases h
  | case5 c d e f rest ih =>
    simp only [Option.bind_eq_bind, Option.bind_eq_some_iff] at h
    obtain ⟨u, hu, v, hv, w, hw, x, hl, tail, htail, h⟩ := h
    cases h
    obtain ⟨hul, rfl⟩ := symbol_of_value? hu
    obtain ⟨hvl, rfl⟩ := symbol_of_value? hv
    obtain ⟨hwl, rfl⟩ := symbol_of_value? hw
    obtain ⟨hxl, rfl⟩ := symbol_of_value? hl
    rw [encode, (hfirst hul hvl).1, (hfirst hul hvl).2, (hsecond hwl).1, (hsecond hwl).2,
      (hthird hxl).1, (hthird hxl).2, Nat.div_add_mod', Nat.div_add_mod', ih htail]

theorem decode_eq_some_iff (ha : a.Lawful) {cs : List Char} {bytes : List UInt8} :
    decode a cs = some bytes ↔ cs = encode a bytes := by
  constructor
  · intro h
    exact (encode_of_decode h).symm
  · rintro rfl
    exact decode_encode ha bytes

/-! ## Closing signs -/

theorem exists_symbol {bytes : List UInt8} (hc : c ∈ encode a bytes) : ∃ v < 64, symbol a v = c := by
  fun_induction encode a bytes with
  | case1 => cases hc
  | case2 x =>
    have hx := x.toNat_lt
    simp only [List.mem_cons, List.not_mem_nil, or_false] at hc
    rcases hc with rfl | rfl
    · exact ⟨_, by omega, rfl⟩
    · exact ⟨_, by omega, rfl⟩
  | case3 x y =>
    have hx := x.toNat_lt
    have hy := y.toNat_lt
    simp only [List.mem_cons, List.not_mem_nil, or_false] at hc
    rcases hc with rfl | rfl | rfl
    · exact ⟨_, by omega, rfl⟩
    · exact ⟨_, by omega, rfl⟩
    · exact ⟨_, by omega, rfl⟩
  | case4 x y z rest ih =>
    have hx := x.toNat_lt
    have hy := y.toNat_lt
    have hz := z.toNat_lt
    simp only [List.mem_cons] at hc
    rcases hc with rfl | rfl | rfl | rfl | hc
    · exact ⟨_, by omega, rfl⟩
    · exact ⟨_, by omega, rfl⟩
    · exact ⟨_, by omega, rfl⟩
    · exact ⟨_, by omega, rfl⟩
    · exact ih hc

/-- The signs at the end of a text and what stands before them. -/
theorem decodeLenient_closed {symbols : List Char} (hs : ∀ c ∈ symbols.getLast?, c ≠ '=') (k : Nat) :
    decodeLenient a (symbols ++ List.replicate k '=') =
      if k ≤ closing symbols.length then decode a symbols else none := by
  have hsigns : ((symbols ++ List.replicate k '=').reverse.takeWhile (· == '=')).length = k := by
    have hall : ∀ c ∈ List.replicate k '=', (c == '=') = true := by
      intro c hc
      rw [List.eq_of_mem_replicate hc]
      rfl
    have hnone : symbols.reverse.takeWhile (· == '=') = [] := by
      cases hlast : symbols.reverse with
      | nil => rfl
      | cons c more =>
        have hc : c ≠ '=' := hs c (by rw [List.getLast?_eq_head?_reverse, hlast]; rfl)
        exact List.takeWhile_cons_of_neg (by simpa using hc)
    rw [List.reverse_append, List.reverse_replicate, List.takeWhile_append_of_pos hall, hnone,
      List.append_nil, List.length_replicate]
  have htake : (symbols ++ List.replicate k '=').take
      ((symbols ++ List.replicate k '=').length - k) = symbols := by
    refine List.take_left' ?_
    rw [List.length_append, List.length_replicate, Nat.add_sub_cancel]
  simp only [decodeLenient, hsigns, htake]

theorem exists_closed (cs : List Char) : ∃ symbols k, cs = symbols ++ List.replicate k '=' ∧
    ∀ c ∈ symbols.getLast?, c ≠ '=' := by
  induction cs using List.reverseRecOn with
  | nil => exact ⟨[], 0, rfl, by simp⟩
  | append_singleton cs c ih =>
    by_cases hc : c = '='
    · obtain ⟨symbols, k, rfl, hs⟩ := ih
      refine ⟨symbols, k + 1, ?_, hs⟩
      rw [hc, List.append_assoc, List.replicate_succ']
    · refine ⟨cs ++ [c], 0, by simp, ?_⟩
      simpa using hc

theorem decodeLenient_eq_some_iff (ha : a.Lawful) {cs : List Char} {bytes : List UInt8} :
    decodeLenient a cs = some bytes ↔
      ∃ k ≤ closing (encode a bytes).length, cs = encode a bytes ++ List.replicate k '=' := by
  constructor
  · intro h
    obtain ⟨symbols, k, rfl, hs⟩ := exists_closed cs
    rw [decodeLenient_closed hs] at h
    split at h
    next hk =>
      obtain rfl := (decode_eq_some_iff ha).mp h
      exact ⟨k, hk, rfl⟩
    next => cases h
  · rintro ⟨k, hk, rfl⟩
    have hs : ∀ c ∈ (encode a bytes).getLast?, c ≠ '=' := by
      intro c hc
      obtain ⟨v, hv, rfl⟩ := exists_symbol (List.mem_of_getLast? hc)
      exact symbol_ne_sign ha hv
    rw [decodeLenient_closed hs, if_pos hk]
    exact decode_encode ha bytes

theorem decodeLenient_encodePadded (ha : a.Lawful) (bytes : List UInt8) :
    decodeLenient a (encodePadded a bytes) = some bytes :=
  (decodeLenient_eq_some_iff ha).mpr ⟨_, Nat.le_refl _, rfl⟩

theorem four_dvd_length_encodePadded (bytes : List UInt8) : 4 ∣ (encodePadded a bytes).length := by
  simp only [encodePadded, closing, List.length_append, List.length_replicate]
  omega

end BearerTokens.Text.Base64
