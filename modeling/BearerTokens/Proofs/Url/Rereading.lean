import BearerTokens.Proofs.Url.Targets

/-! # A settled address is read as itself

What the reader writes of an address with the scheme `http` or `https` it reads as it stands, part by part:
encoded characters are left as they are, the segments of a path are resolved, and each part is closed by the
sign that closed it before.  The host alone may settle further, if it is a name that is marked or not in lower
case.
-/

namespace BearerTokens.Url

open Challenge (Stops bne_of_not_mem takeWhile_run stops_cons stops_nil)

/-! ## Encoded characters -/

/-- What the class does not hold is written as it is, and no control or space is. -/
structure Encodes (p : Char → Bool) : Prop where
  sign : p '%' = false
  word : ∀ c, c.isAlphanum = true → p c = false
  low : ∀ c, c.toNat ≤ 32 → p c = true

section Encoded

variable {p : Char → Bool} {cs signs : List Char} {c : Char}

theorem isControl_alphanum (h : c.isAlphanum = true) : isControl c = false := by
  rw [Text.Base64.isAlphanum_iff] at h
  have hdelete : c ≠ '\x7f' := by
    rintro rfl
    revert h
    decide
  simp only [isControl, Bool.or_eq_false_iff, decide_eq_false_iff_not, beq_eq_false_iff_ne]
  exact ⟨by omega, hdelete⟩

theorem isControl_or_space (h : c.toNat ≤ 32) : isControl c = true ∨ c = ' ' := by
  rcases Nat.lt_or_eq_of_le h with h | h
  · exact .inl (by simp [isControl, h])
  · exact .inr (Char.toNat_inj.mp h)

theorem encodes_fragment : Encodes isFragmentUnsafe where
  sign := by decide
  word c h := by
    rw [isFragmentUnsafe, isControl_alphanum h, contains_alphanum (by decide) h]
    rfl
  low c h := by
    rcases isControl_or_space h with h | rfl
    · simp [isFragmentUnsafe, h]
    · decide

theorem Encodes.or (h : Encodes p) (hsign : '%' ∉ signs) (hs : signs.any Char.isAlphanum = false) :
    Encodes fun c => p c || signs.contains c where
  sign := by simp [h.sign, hsign]
  word c hc := by rw [h.word c hc, contains_alphanum hs hc, Bool.or_false]
  low c hc := by rw [h.low c hc, Bool.true_or]

theorem encodes_path : Encodes isPathUnsafe := encodes_fragment.or (by decide) (by decide)

theorem encodes_user : Encodes isUserUnsafe := encodes_path.or (by decide) (by decide)

theorem encodes_query : Encodes (isQueryUnsafe true) where
  sign := by decide
  word c h := by
    have hquote : c ≠ '\x27' := by
      rintro rfl
      revert h
      decide
    rw [isQueryUnsafe, isControl_alphanum h, contains_alphanum (by decide) h]
    simpa using hquote
  low c h := by
    rcases isControl_or_space h with h | rfl
    · simp [isQueryUnsafe, h]
    · decide

theorem encodeWith_self (h : ∀ c ∈ cs, p c = false ∧ c.toNat < 127) : encodeWith p cs = cs := by
  induction cs with
  | nil => rfl
  | cons c cs ih =>
    obtain ⟨⟨hc, hascii⟩, hcs⟩ := List.forall_mem_cons.mp h
    have hkept : ¬ (p c || decide (127 ≤ c.toNat)) = true := by simp [hc, hascii]
    rw [encodeWith, List.flatMap_cons, if_neg hkept]
    exact congrArg (c :: ·) (ih hcs)

theorem Encodes.kept (hp : Encodes p) (h : c ∈ (encoded p cs).toList) :
    p c = false ∧ c.toNat < 127 := by
  rw [encoded, String.toList_ofList] at h
  rcases mem_encodeWith h with rfl | h | ⟨-, hkept, hascii⟩
  · exact ⟨hp.sign, by decide⟩
  · refine ⟨hp.word c h, ?_⟩
    rcases (Text.Base64.isAlphanum_iff c).mp h with h | h | h <;> omega
  · exact ⟨hkept, hascii⟩

theorem Encodes.visible (hp : Encodes p) (h : c ∈ (encoded p cs).toList) : 32 < c.toNat := by
  by_contra hlow
  have hunsafe := hp.low c (by omega)
  rw [(hp.kept h).1] at hunsafe
  cases hunsafe

theorem Encodes.again (hp : Encodes p) (cs : List Char) :
    encoded p (encoded p cs).toList = encoded p cs := by
  rw [encoded, encodeWith_self fun c hc => hp.kept hc, String.ofList_toList]

end Encoded

/-! ## Paths -/

/-- The segment stands for itself. -/
def Plain (segment : String) : Prop := plainDots segment ≠ ".." ∧ plainDots segment ≠ "."

def isSlash (c : Char) : Bool := c == '/' || c == '\\'

/-- The segment is read as itself. -/
structure Lasting (segment : String) : Prop where
  plain : Plain segment
  whole : ∀ c ∈ segment.toList, isSlash c = false
  kept : encoded isPathUnsafe segment.toList = segment

section Paths

variable {cs : List Char}

theorem resolve_plain {done rest : List String} (h : ∀ segment ∈ rest, Plain segment) :
    resolve done rest = done ++ rest := by
  fun_induction resolve done rest with
  | case1 done => rw [List.append_nil]
  | case2 done last hup => exact absurd hup (h last List.mem_cons_self).1
  | case3 done last hup hhere => exact absurd hhere (h last List.mem_cons_self).2
  | case4 done last hup hhere => rfl
  | case5 done up rest hne hup ih => exact absurd hup (h up List.mem_cons_self).1
  | case6 done here rest hne hup hhere ih => exact absurd hhere (h here List.mem_cons_self).2
  | case7 done next rest hne hup hhere ih =>
    rw [ih fun segment hs => h segment (List.mem_cons_of_mem _ hs), List.append_assoc]
    rfl

theorem plain_empty : Plain "" := by
  constructor <;> decide +kernel

theorem plain_concat {done : List String} {segment : String} (h : ∀ s ∈ done, Plain s)
    (hs : Plain segment) : ∀ s ∈ done ++ [segment], Plain s := by
  intro s hmem
  rcases List.mem_append.mp hmem with hmem | hmem
  · exact h s hmem
  · obtain rfl := List.mem_singleton.mp hmem
    exact hs

theorem plain_resolve {done rest : List String} (h : ∀ segment ∈ done, Plain segment) :
    ∀ segment ∈ resolve done rest, Plain segment := by
  have hparent {done : List String} (h : ∀ s ∈ done, Plain s) : ∀ s ∈ parent done, Plain s :=
    fun s hs => h s (parent_subset done hs)
  fun_induction resolve done rest with
  | case1 done => exact h
  | case2 done last hup => exact plain_concat (hparent h) plain_empty
  | case3 done last hup hhere => exact plain_concat h plain_empty
  | case4 done last hup hhere => exact plain_concat h ⟨hup, hhere⟩
  | case5 done up rest hne hup ih => exact ih (hparent h)
  | case6 done here rest hne hup hhere ih => exact ih h
  | case7 done next rest hne hup hhere ih => exact ih (plain_concat h ⟨hup, hhere⟩)

theorem resolve_ne_nil {done rest : List String} (h : rest ≠ []) : resolve done rest ≠ [] := by
  fun_induction resolve done rest with
  | case1 done => exact absurd rfl h
  | case2 | case3 | case4 => simp
  | case5 done up rest hne hup ih => exact ih hne
  | case6 done here rest hne hup hhere ih => exact ih hne
  | case7 done next rest hne hup hhere ih => exact ih hne

theorem isSlash_alphanum {c : Char} (h : c.isAlphanum = true) : isSlash c = false := by
  by_contra hslash
  have hsign : c = '/' ∨ c = '\\' := by simpa [isSlash, ← or_iff_not_imp_left] using hslash
  rcases hsign with rfl | rfl <;> revert h <;> decide

theorem lasting_resolve {part : String}
    (h : part ∈ resolve [] ((splitAt isSlash cs).map (encoded isPathUnsafe))) : Lasting part := by
  have hplain := plain_resolve (by simp) part h
  rcases mem_resolve h with h | h | rfl
  · cases h
  · obtain ⟨row, hrow, rfl⟩ := List.mem_map.mp h
    refine ⟨hplain, fun c hc => ?_, encodes_path.again row⟩
    rw [encoded, String.toList_ofList] at hc
    rcases mem_encodeWith hc with rfl | hc | ⟨hc, -⟩
    · rfl
    · exact isSlash_alphanum hc
    · exact mem_splitAt hrow c hc
  · exact ⟨hplain, by simp, by decide +kernel⟩

/-- A path is its segments with a slash before each. -/
theorem exists_segments (cs : List Char) : ∃ segments : List String, segments ≠ [] ∧
    (∀ segment ∈ segments, Lasting segment) ∧ readPath true cs = "/" ++ "/".intercalate segments :=
  ⟨_, resolve_ne_nil (by simpa using splitAt_ne_nil _ _), fun _ h => lasting_resolve h, rfl⟩

theorem readPath_segments {segments : List String} (hne : segments ≠ [])
    (h : ∀ segment ∈ segments, Lasting segment) :
    readPath true ("/" ++ "/".intercalate segments).toList = "/" ++ "/".intercalate segments := by
  have hsplit : splitAt isSlash (("/".toList).intercalate (segments.map String.toList)) =
      segments.map String.toList := by
    refine splitAt_intercalate (by decide) (by simpa using hne) fun row hrow => ?_
    obtain ⟨segment, hsegment, rfl⟩ := List.mem_map.mp hrow
    exact (h segment hsegment).whole
  have hkept : (segments.map String.toList).map (encoded isPathUnsafe) = segments := by
    rw [List.map_map]
    exact (List.map_congr_left (g := id) fun segment hs => (h segment hs).kept).trans (List.map_id _)
  have htext : ("/" ++ "/".intercalate segments).toList =
      '/' :: ("/".toList).intercalate (segments.map String.toList) := by
    rw [String.toList_append, String.toList_intercalate]
    rfl
  have hread : readPath true ('/' :: ("/".toList).intercalate (segments.map String.toList)) =
      "/" ++ "/".intercalate (resolve [] ((splitAt isSlash
        (("/".toList).intercalate (segments.map String.toList))).map (encoded isPathUnsafe))) := rfl
  rw [htext, hread, hsplit, hkept, resolve_plain fun segment hs => (h segment hs).plain,
    List.nil_append]

theorem readPath_again (cs : List Char) : readPath true (readPath true cs).toList = readPath true cs := by
  obtain ⟨segments, hne, hlasting, hpath⟩ := exists_segments cs
  rw [hpath]
  exact readPath_segments hne hlasting

end Paths

/-! ## Queries and fragments -/

section Tails

variable {query fragment : Option String}

theorem tails_kept (cs : List Char) :
    (∀ q ∈ (tails true cs).1, encoded (isQueryUnsafe true) q.toList = q) ∧
      ∀ f ∈ (tails true cs).2, encoded isFragmentUnsafe f.toList = f := by
  constructor
  · intro q hq
    simp only [tails] at hq
    split at hq
    next =>
      cases hq
      exact encodes_query.again _
    next => cases hq
  · intro f hf
    simp only [tails] at hf
    split at hf
    next =>
      cases hf
      exact encodes_fragment.again _
    next => cases hf

theorem tails_signed (hq : ∀ q ∈ query, '#' ∉ q.toList ∧ encoded (isQueryUnsafe true) q.toList = q)
    (hf : ∀ f ∈ fragment, encoded isFragmentUnsafe f.toList = f) :
    tails true (signed '?' query ++ signed '#' fragment) = (query, fragment) := by
  have hhash : '#' ∉ signed '?' query := by
    cases query with
    | none => exact List.not_mem_nil
    | some q =>
      intro hc
      rcases List.mem_cons.mp hc with hc | hc
      · exact absurd hc (by decide)
      · exact (hq q rfl).1 hc
  have hquery : (signed '?' query ++ signed '#' fragment).takeWhile (· != '#') = signed '?' query :=
    takeWhile_run (bne_of_not_mem hhash) (stops_signed '#' fragment)
  simp only [tails, hquery, List.drop_left, Prod.mk.injEq]
  constructor
  · cases query with
    | none => rfl
    | some q => exact congrArg some (hq q rfl).2
  · cases fragment with
    | none => rfl
    | some f => exact congrArg some (hf f rfl)

end Tails

/-! ## User information -/

section Users

variable {cs name secret : List Char}

theorem encoded_ne_empty {p : Char → Bool} (h : cs ≠ []) : encoded p cs ≠ "" := by
  obtain ⟨c, rest, rfl⟩ := List.exists_cons_of_ne_nil h
  intro hempty
  have hnil : encodeWith p (c :: rest) = [] := by
    rw [encoded, ← String.ofList_nil] at hempty
    exact String.ofList_injective hempty
  rw [encodeWith, List.flatMap_cons, List.append_eq_nil_iff] at hnil
  have hpiece := hnil.1
  split at hpiece
  next =>
    obtain ⟨b, bytes, hbytes⟩ := List.exists_cons_of_ne_nil
      (Text.utf8_ne_nil (s := String.singleton c) (by simp))
    rw [percentEncoded, hbytes] at hpiece
    cases hpiece
  next => cases hpiece

/-- Name and secret with their colon, each encoded. -/
def credentials (name secret : List Char) : String :=
  encoded isUserUnsafe name ++ (if secret.isEmpty then "" else ":" ++ encoded isUserUnsafe secret)

theorem readUser_eq (cs : List Char) : readUser cs =
    let text := credentials (cs.takeWhile (· != ':')) (cs.drop ((cs.takeWhile (· != ':')).length + 1))
    if text.isEmpty then "" else text ++ "@" := rfl

theorem mem_credentials {c : Char} (h : c ∈ (credentials name secret).toList) :
    c = ':' ∨ isUserUnsafe c = false := by
  rw [credentials, String.toList_append, List.mem_append] at h
  rcases h with h | h
  · exact .inr (encodes_user.kept h).1
  · split at h
    next => cases h
    next =>
      rw [String.toList_append, List.mem_append] at h
      rcases h with h | h
      · exact .inl (List.mem_singleton.mp h)
      · exact .inr (encodes_user.kept h).1

theorem readUser_credentials (h : (credentials name secret).isEmpty = false) :
    readUser (credentials name secret).toList = credentials name secret ++ "@" := by
  have hcolon : ':' ∉ (encoded isUserUnsafe name).toList := not_mem_encoded (by decide) (by decide)
  have htext : (credentials name secret).toList = (encoded isUserUnsafe name).toList ++
      (if secret.isEmpty then [] else ':' :: (encoded isUserUnsafe secret).toList) := by
    rw [credentials, String.toList_append]
    split <;> simp
  have hname : (credentials name secret).toList.takeWhile (· != ':') =
      (encoded isUserUnsafe name).toList := by
    rw [htext]
    refine takeWhile_run (bne_of_not_mem hcolon) ?_
    split
    · exact stops_nil _
    · exact stops_cons.mpr (by decide)
  have hsecret : (credentials name secret).toList.drop ((encoded isUserUnsafe name).toList.length + 1) =
      (encoded isUserUnsafe secret).toList := by
    rw [htext, List.drop_append]
    split
    next hs =>
      obtain rfl := List.isEmpty_iff.mp hs
      simp [encoded, encodeWith]
    next => simp
  have hempty : (encoded isUserUnsafe secret).toList.isEmpty = secret.isEmpty := by
    cases secret with
    | nil => rfl
    | cons c secret => simpa using encoded_ne_empty (p := isUserUnsafe) (List.cons_ne_nil c secret)
  have hagain : credentials (encoded isUserUnsafe name).toList (encoded isUserUnsafe secret).toList =
      credentials name secret := by
    rw [credentials, encodes_user.again, encodes_user.again, hempty, credentials]
  simp only [readUser_eq, hname, hsecret, hagain, h]
  rfl

theorem readUser_cases (cs : List Char) : readUser cs = "" ∨ ∃ name secret,
    (credentials name secret).isEmpty = false ∧ readUser cs = credentials name secret ++ "@" := by
  let name := cs.takeWhile (· != ':')
  let text := credentials name (cs.drop (name.length + 1))
  have hread : readUser cs = if text.isEmpty then "" else text ++ "@" := readUser_eq cs
  rw [hread]
  split
  next => exact .inl rfl
  next hempty => exact .inr ⟨_, _, by simpa using hempty, rfl⟩

end Users

/-! ## Ports -/

section Ports

variable {default : Option Nat} {cs : List Char} {n : Nat}

/-- A port that is written. -/
def Port (default : Option Nat) (text : String) : Prop :=
  text = "" ∨ ∃ n ≤ 65535, default ≠ some n ∧ text = ":" ++ toString n

theorem port_readPort {text : String} (h : readPort default cs = .ok text) : Port default text := by
  simp only [readPort] at h
  split at h
  next => cases h
  next hfits =>
    split at h
    next =>
      cases h
      exact .inl rfl
    next hother =>
      cases h
      simp only [Bool.or_eq_true, Bool.not_eq_true', decide_eq_true_eq, not_or, Nat.not_lt] at hfits
      simp only [Bool.or_eq_true, decide_eq_true_eq, not_or] at hother
      exact .inr ⟨_, hfits.2, hother.2, rfl⟩

theorem readPort_toString (hn : n ≤ 65535) (hd : default ≠ some n) :
    readPort default (toString n).toList = .ok (":" ++ toString n) := by
  have htext : (toString n).toList = Nat.toDigits 10 n := Nat.toList_repr
  have hvalue : (Nat.toDigits 10 n).foldl (fun n c => n * 10 + (c.toNat - 48)) 0 = n := by
    have hfold : Nat.ofDigitChars 10 (Nat.toDigits 10 n) 0 = n := Nat.ofDigitChars_ten_toDigits
    rw [Nat.ofDigitChars_eq_foldl] at hfold
    simpa [Nat.mul_comm] using hfold
  have hdigits : (Nat.toDigits 10 n).all Char.isDigit = true :=
    List.all_eq_true.mpr fun _ => isDigit_toDigits
  have hne : (Nat.toDigits 10 n).isEmpty = false :=
    List.isEmpty_eq_false_iff.mpr Nat.toDigits_ne_nil
  simp only [readPort, htext, hvalue, hdigits, hne]
  rw [if_neg (by simpa using hn), if_neg (by simpa using hd)]

end Ports

/-! ## Authorities -/

def inAuthority (c : Char) : Bool := c != '/' && !(true && c == '\\') && !endsPath c

/-- The parts of an authority as they are written. -/
structure Site (default : Option Nat) (user : String) (host : List Char) (port : String) : Prop where
  user : user = "" ∨ ∃ name secret, (credentials name secret).isEmpty = false ∧
    user = credentials name secret ++ "@"
  host : WrittenHost (String.ofList host)
  port : Port default port

/-- The host of an authority. -/
def hostOf (authority : String) : List Char :=
  takeHost false (Http.Uri.lastRun '@' authority.toList)

section Authorities

variable {default : Option Nat} {cs host rest : List Char} {user port written : String} {c : Char}

theorem site_readAuthority (h : readAuthority true default cs = .ok (written, rest)) :
    ∃ user host port, written = user ++ String.ofList host ++ port ∧ Site default user host port := by
  obtain ⟨name, host, port, hostText, portText, rfl, hhost, hport⟩ := readAuthority_eq_ok h
  have hwritten : WrittenHost (String.ofList hostText.toList) := by
    rw [String.ofList_toList]
    exact writtenHost_readHost hhost
  exact ⟨_, hostText.toList, _, by rw [String.ofList_toList], readUser_cases name, hwritten,
    port_readPort hport⟩

theorem Site.hostText (h : Site default user host port) : HostText host := by
  simpa using h.host.text

theorem mem_port (h : Port default port) (hc : c ∈ port.toList) : c = ':' ∨ isForbidden c = false := by
  rcases h with rfl | ⟨n, -, -, rfl⟩
  · cases hc
  · rw [String.toList_append, List.mem_append] at hc
    rcases hc with hc | hc
    · exact .inl (List.mem_singleton.mp hc)
    · exact .inr (allowed_toString n c hc)

/-- The host and port of an authority. -/
theorem Site.mem_behind (h : Site default user host port) (hc : c ∈ host ++ port.toList) :
    c = '[' ∨ c = ']' ∨ c = ':' ∨ isForbidden c = false := by
  rcases List.mem_append.mp hc with hc | hc
  · exact h.hostText.mem hc
  · exact .inr (.inr (mem_port h.port hc))

theorem Site.sign_not_mem (h : Site default user host port) : '@' ∉ host ++ port.toList := by
  intro hc
  rcases h.mem_behind hc with hc | hc | hc | hc <;> exact absurd hc (by decide)

theorem Site.mem (h : Site default user host port)
    (hc : c ∈ user.toList ++ (host ++ port.toList)) : inAuthority c = true ∧ 32 < c.toNat := by
  have hkept {p : Char → Bool} (hp : p c = false) (hlow : c.toNat ≤ 32 → p c = true)
      (hsigns : p '/' = true ∧ p '\\' = true ∧ p '?' = true ∧ p '#' = true) :
      inAuthority c = true ∧ 32 < c.toNat := by
    refine ⟨?_, Nat.not_le.mp fun hle => ?_⟩
    · simp [inAuthority, endsPath, ne_of_class hp hsigns.1, ne_of_class hp hsigns.2.1,
        ne_of_class hp hsigns.2.2.1, ne_of_class hp hsigns.2.2.2]
    · rw [hlow hle] at hp
      cases hp
  have hforbidden (hc : isForbidden c = false) : inAuthority c = true ∧ 32 < c.toNat :=
    hkept hc (fun hle => by simp [isForbidden, hle]) (by decide)
  rcases List.mem_append.mp hc with hc | hc
  · rcases h.user with rfl | ⟨name, secret, -, rfl⟩
    · cases hc
    · rw [String.toList_append, List.mem_append] at hc
      rcases hc with hc | hc
      · rcases mem_credentials hc with rfl | hc
        · decide
        · exact hkept hc (encodes_user.low c) (by decide)
      · obtain rfl := List.mem_singleton.mp hc
        decide
  · rcases h.mem_behind hc with rfl | rfl | rfl | hc
    · decide
    · decide
    · decide
    · exact hforbidden hc

theorem stops_port (h : Port default port) : Stops (· != ':') port.toList := by
  rcases h with rfl | ⟨n, -, -, rfl⟩
  · exact stops_nil _
  · rw [String.toList_append]
    exact stops_cons.mpr (by decide)

theorem Site.user_ends (h : Site default user host port) :
    user.toList = [] ∨ user.toList.getLast? = some '@' := by
  rcases h.user with rfl | ⟨name, secret, -, rfl⟩
  · exact .inl rfl
  · exact .inr (by simp)

theorem Site.hostOf_eq (h : Site default user host port) :
    hostOf (user ++ String.ofList host ++ port) = host := by
  have htext : (user ++ String.ofList host ++ port).toList = user.toList ++ (host ++ port.toList) := by
    simp
  rw [hostOf, htext, Http.Uri.lastRun_eq h.user_ends h.sign_not_mem]
  exact h.hostText.takeHost_eq (stops_port h.port)

theorem ne_nil_of_readHost (h : readHost host = .ok written) : host ≠ [] := by
  rintro rfl
  have hempty : readHost [] = .error .emptyHost := by decide +kernel
  rw [hempty] at h
  cases h

theorem readPort_written (h : Port default port) :
    readPort default (port.toList.drop 1) = .ok port := by
  rcases h with rfl | ⟨n, hn, hd, rfl⟩
  · rfl
  · have htext : (":" ++ toString n).toList.drop 1 = (toString n).toList := by simp
    rw [htext]
    exact readPort_toString hn hd

/-- What stands before the last sign of an authority is read as the user information that it is. -/
theorem Site.readUser_eq (h : Site default user host port) :
    let text := user.toList ++ (host ++ port.toList)
    readUser (if text.contains '@' then text.take (text.length - (host ++ port.toList).length - 1)
      else []) = user := by
  have hsign := h.sign_not_mem
  rcases h.user with rfl | ⟨name, secret, hne, rfl⟩
  · have hnone : ("".toList ++ (host ++ port.toList)).contains '@' = false := by
      simpa [List.contains_iff_mem] using hsign
    simp only [hnone]
    rfl
  · have htext : (credentials name secret ++ "@").toList = (credentials name secret).toList ++ ['@'] := by
      simp
    have hcontains : ((credentials name secret).toList ++ ['@'] ++ (host ++ port.toList)).contains '@' =
        true := by simp
    simp only [htext, hcontains, if_true]
    rw [List.length_append, List.length_append, List.length_singleton, List.append_assoc,
      List.take_left' (by omega)]
    exact readUser_credentials hne

theorem Site.readAuthority_eq (h : Site default user host port)
    (hhost : readHost host = .ok (String.ofList host)) (hrest : Stops inAuthority rest) :
    readAuthority true default (user.toList ++ (host ++ port.toList) ++ rest) =
      .ok (user ++ String.ofList host ++ port, rest) := by
  have hne : host.isEmpty = false := List.isEmpty_eq_false_iff.mpr (ne_nil_of_readHost hhost)
  have htaken : (user.toList ++ (host ++ port.toList) ++ rest).takeWhile
      (fun c => c != '/' && !(true && c == '\\') && !endsPath c) =
        user.toList ++ (host ++ port.toList) :=
    takeWhile_run (p := inAuthority) (fun c hc => (h.mem hc).1) hrest
  have hsite : ((user.toList ++ (host ++ port.toList)).reverse.takeWhile (· != '@')).reverse =
      host ++ port.toList := Http.Uri.lastRun_eq h.user_ends h.sign_not_mem
  have hsome : (host ++ port.toList).isEmpty = false := by
    rw [List.isEmpty_eq_false_iff] at hne ⊢
    exact List.append_ne_nil_of_left_ne_nil hne _
  have htake := h.hostText.takeHost_eq (stops_port h.port)
  have hend : (port.toList.drop 1).takeWhile (· != '\\') = port.toList.drop 1 := by
    refine List.takeWhile_eq_self_iff.mpr fun c hc => ?_
    rw [bne_iff_ne]
    rintro rfl
    rcases mem_port h.port (List.mem_of_mem_drop hc) with hc | hc <;> exact absurd hc (by decide)
  have hnone : port.toList.drop ((port.toList.drop 1).length + 1) = [] := by
    rw [List.drop_eq_nil_iff, List.length_drop]
    omega
  simp only [readAuthority, htaken, List.drop_left, hsite, hsome, htake, hne, h.readUser_eq, hend, hhost,
    readPort_written h.port, hnone, Bool.and_false, Bool.false_and, if_true, List.nil_append]
  rfl

end Authorities

/-! ## Addresses -/

/-- The parts of an address that has been read. -/
structure Settled (u : Url) (default : Nat) (user : String) (host : List Char) (port : String) :
    Prop where
  site : Site (some default) user host port
  authority : u.authority = some (user ++ String.ofList host ++ port)
  ofPath : ∃ cs, u.path = readPath true cs
  ofTails : ∃ cs, (u.query, u.fragment) = tails true cs

section Addresses

variable {u : Url} {text scheme : String} {cs host : List Char} {default : Nat} {user port : String}

theorem settled_readRest (hport : defaultPorts.lookup scheme = some default)
    (h : readRest scheme cs = .ok u) : ∃ user host port, Settled u default user host port := by
  simp only [readRest, hport, bind, Except.bind] at h
  split at h
  next => cases h
  next found hfound =>
    cases h
    obtain ⟨user, host, port, hwritten, hsite⟩ := site_readAuthority hfound
    exact ⟨user, host, port, hsite, congrArg some hwritten, ⟨_, rfl⟩, ⟨_, rfl⟩⟩

/-- What an address is written as behind its scheme and the colon. -/
def behindScheme (u : Url) (authority : List Char) : List Char :=
  '/' :: '/' :: (authority ++ (u.path.toList ++ (signed '?' u.query ++ signed '#' u.fragment)))

/-! ### Nothing is trimmed -/

theorem visible_readPath {c : Char} (h : c ∈ (readPath true cs).toList) : 32 < c.toNat := by
  obtain ⟨segments, -, hlasting, hpath⟩ := exists_segments cs
  rw [hpath, String.toList_append, List.mem_append] at h
  rcases h with h | h
  · obtain rfl := List.mem_singleton.mp h
    decide
  · rw [String.toList_intercalate] at h
    rcases mem_intercalate h with h | ⟨row, hrow, h⟩
    · obtain rfl := List.mem_singleton.mp h
      decide
    · obtain ⟨segment, hsegment, rfl⟩ := List.mem_map.mp hrow
      rw [← (hlasting segment hsegment).kept] at h
      exact encodes_path.visible h

theorem visible_signed {p : Char → Bool} {sign c : Char} {part : Option String} (hp : Encodes p)
    (hsign : 32 < sign.toNat) (hpart : ∀ s ∈ part, encoded p s.toList = s)
    (h : c ∈ signed sign part) : 32 < c.toNat := by
  cases part with
  | none => cases h
  | some s =>
    rcases List.mem_cons.mp h with rfl | h
    · exact hsign
    · rw [← hpart s rfl] at h
      exact hp.visible h

theorem Settled.visible (h : Settled u default user host port) :
    ∀ c ∈ behindScheme u (user.toList ++ (host ++ port.toList)), 32 < c.toNat := by
  obtain ⟨cs, hpath⟩ := h.ofPath
  obtain ⟨ds, htails⟩ := h.ofTails
  have hkept := tails_kept ds
  rw [← htails] at hkept
  intro c hc
  rcases List.mem_cons.mp hc with rfl | hc
  · decide
  rcases List.mem_cons.mp hc with rfl | hc
  · decide
  rcases List.mem_append.mp hc with hc | hc
  · exact (h.site.mem hc).2
  rw [hpath] at hc
  rcases List.mem_append.mp hc with hc | hc
  · exact visible_readPath hc
  rcases List.mem_append.mp hc with hc | hc
  · exact visible_signed encodes_query (by decide) hkept.1 hc
  · exact visible_signed encodes_fragment (by decide) hkept.2 hc

theorem read_visible {scheme rest : List Char} (hs : scheme = "http".toList ∨ scheme = "https".toList)
    (hrest : ∀ c ∈ rest, 32 < c.toNat) :
    read (String.ofList (scheme ++ ':' :: rest)) = readRest (String.ofList scheme) rest := by
  have hscheme : (scheme.all fun c => decide (32 < c.toNat)) = true := by
    rcases hs with rfl | rfl <;> decide
  have hvisible : ∀ c ∈ scheme ++ ':' :: rest, 32 < c.toNat := by
    intro c hc
    rcases List.mem_append.mp hc with hc | hc
    · exact of_decide_eq_true (List.all_eq_true.mp hscheme c hc)
    · rcases List.mem_cons.mp hc with rfl | hc
      · decide
      · exact hrest c hc
  have hedge {l : List Char} (hl : ∀ c ∈ l, 32 < c.toNat) :
      l.dropWhile (fun c => decide (c.toNat ≤ 32)) = l := by
    cases l with
    | nil => rfl
    | cons c l => rw [List.dropWhile_cons_of_neg (by simpa using hl c List.mem_cons_self)]
  have htrimmed : (((scheme ++ ':' :: rest).dropWhile fun c => decide (c.toNat ≤ 32)).reverse.dropWhile
      fun c => decide (c.toNat ≤ 32)).reverse = scheme ++ ':' :: rest := by
    rw [hedge hvisible, hedge fun c hc => hvisible c (List.mem_reverse.mp hc), List.reverse_reverse]
  have hfilter : (scheme ++ ':' :: rest).filter (fun c => c != '\t' && c != '\n' && c != '\r') =
      scheme ++ ':' :: rest := by
    refine List.filter_eq_self.mpr fun c hc => ?_
    have hc := hvisible c hc
    have hne {d : Char} (hd : d.toNat ≤ 32) : c ≠ d := by
      rintro rfl
      omega
    simp [hne (d := '\t') (by decide), hne (d := '\n') (by decide), hne (d := '\r') (by decide)]
  have htaken : (scheme ++ ':' :: rest).takeWhile
      (fun c => c.isAlphanum || c == '+' || c == '-' || c == '.') = scheme := by
    refine takeWhile_run (List.all_eq_true.mp ?_) (stops_cons.mpr (by decide))
    rcases hs with rfl | rfl <;> decide
  have hlower : (String.ofList scheme).toLower = String.ofList scheme := by
    rcases hs with rfl | rfl <;> decide +kernel
  simp only [read, String.toList_ofList, htrimmed, hfilter, htaken, List.drop_left, hlower]
  rcases hs with rfl | rfl <;> rfl

/-! ### Every part is read as itself -/

theorem stops_tails {query fragment : Option String} :
    Stops (!endsPath ·) (signed '?' query ++ signed '#' fragment) := by
  cases query with
  | some q => exact stops_cons.mpr rfl
  | none =>
    cases fragment with
    | some f => exact stops_cons.mpr rfl
    | none => exact stops_nil _

theorem Site.dropWhile_isSlash (h : Site (some default) user host port) (hne : host ≠ []) (rest : List Char) :
    ('/' :: '/' :: (user.toList ++ (host ++ port.toList) ++ rest)).dropWhile isSlash =
      user.toList ++ (host ++ port.toList) ++ rest := by
  obtain ⟨c, more, hmore⟩ : ∃ c more, user.toList ++ (host ++ port.toList) = c :: more :=
    List.exists_cons_of_ne_nil
      (List.append_ne_nil_of_right_ne_nil _ (List.append_ne_nil_of_left_ne_nil hne _))
  have hc : inAuthority c = true := (h.mem (hmore ▸ List.mem_cons_self)).1
  have hslash : ¬ isSlash c = true := by
    intro hsign
    have hsign : c = '/' ∨ c = '\\' := by simpa [isSlash] using hsign
    rcases hsign with rfl | rfl <;> exact absurd hc (by decide)
  rw [hmore, List.cons_append, List.dropWhile_cons_of_pos (by decide),
    List.dropWhile_cons_of_pos (by decide), List.dropWhile_cons_of_neg hslash]

theorem Settled.readRest_eq (h : Settled u default user host port)
    (hport : defaultPorts.lookup u.scheme = some default)
    (hhost : readHost host = .ok (String.ofList host)) :
    readRest u.scheme (behindScheme u (user.toList ++ (host ++ port.toList))) = .ok u := by
  obtain ⟨cs, hpath⟩ := h.ofPath
  obtain ⟨ds, htails⟩ := h.ofTails
  have hagain : readPath true u.path.toList = u.path := by rw [hpath, readPath_again]
  have hends : ∀ c ∈ u.path.toList, (!endsPath c) = true := by
    rw [hpath]
    intro c hc
    simp [endsPath_readPath hc]
  have hstart : Stops inAuthority (u.path.toList ++ (signed '?' u.query ++ signed '#' u.fragment)) := by
    obtain ⟨more, hmore⟩ := readPath_toList true cs
    rw [hpath, hmore]
    exact stops_cons.mpr rfl
  have hsigned : tails true (signed '?' u.query ++ signed '#' u.fragment) = (u.query, u.fragment) := by
    have hkept := tails_kept ds
    have hhash : ∀ q ∈ (tails true ds).1, '#' ∉ q.toList := fun q hq => hash_not_mem_tails hq
    rw [← htails] at hkept hhash
    exact tails_signed (fun q hq => ⟨hhash q hq, hkept.1 q hq⟩) hkept.2
  have hslashes : (behindScheme u (user.toList ++ (host ++ port.toList))).dropWhile
      (fun c => c == '/' || c == '\\') = user.toList ++ (host ++ port.toList) ++
        (u.path.toList ++ (signed '?' u.query ++ signed '#' u.fragment)) :=
    h.site.dropWhile_isSlash (ne_nil_of_readHost hhost) _
  simp only [readRest, hport, hslashes, h.site.readAuthority_eq hhost hstart, bind, Except.bind,
    takeWhile_run hends stops_tails, List.drop_left, hagain, hsigned, ← h.authority]

/-- A settled address is read as itself, unless its host is a name that could settle further. -/
theorem read_text (h : read text = .ok u) (hs : u.scheme = "http" ∨ u.scheme = "https")
    (hname : ∀ authority ∈ u.authority, (hostOf authority).head? ≠ some '[' →
      PlainName (hostOf authority)) : read u.text = .ok u := by
  obtain ⟨scheme, cs, hrest⟩ := read_eq_ok h
  obtain rfl := readRest_scheme hrest
  obtain ⟨default, hport⟩ : ∃ default, defaultPorts.lookup u.scheme = some default := by
    rcases hs with hs | hs <;> exact ⟨_, by rw [hs]; rfl⟩
  obtain ⟨user, host, port, hsettled⟩ := settled_readRest hport hrest
  have hown : readHost host = .ok (String.ofList host) := by
    have hplain := hname _ hsettled.authority
    rw [hsettled.site.hostOf_eq] at hplain
    simpa using hsettled.site.host.again (by simpa using hplain)
  have htext : u.text = String.ofList (u.scheme.toList ++
      ':' :: behindScheme u (user.toList ++ (host ++ port.toList))) := by
    apply String.toList_injective
    rw [text_toList hsettled.authority]
    simp [behindScheme]
  have hscheme : u.scheme.toList = "http".toList ∨ u.scheme.toList = "https".toList := by
    rcases hs with hs | hs
    · exact .inl (congrArg _ hs)
    · exact .inr (congrArg _ hs)
  rw [htext, read_visible hscheme hsettled.visible, String.ofList_toList]
  exact hsettled.readRest_eq hport hown

end Addresses

end BearerTokens.Url
