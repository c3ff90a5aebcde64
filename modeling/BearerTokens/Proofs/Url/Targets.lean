import BearerTokens.Proofs.Url.Hosts

/-! # Parts of addresses are kept apart

The settled spelling of an address with a scheme that always has an authority has no delimiter within its
parts: the authority holds none at all, the path starts with its slash and holds no sign that starts a query or
a fragment, and no query holds the sign of a fragment.  So its text falls apart into just these parts again.
-/

namespace BearerTokens.Url

/-! ## Hosts and ports -/

section Hosts

variable {cs : List Char} {written : String}

theorem undivided_readHost (h : readHost cs = .ok written) : Undivided written.toList := by
  intro c hc
  rcases (writtenHost_readHost h).text.mem hc with rfl | rfl | rfl | hc
  · rfl
  · rfl
  · rfl
  · exact not_isDelimiter_of (p := fun d => !isForbidden d) (by simpa using hc) (by decide)

theorem undivided_readPort {default : Option Nat} (h : readPort default cs = .ok written) :
    Undivided written.toList := by
  simp only [readPort] at h
  split at h
  next => cases h
  split at h
  next =>
    cases h
    exact undivided_nil
  next =>
    cases h
    rw [String.toList_append, undivided_append]
    exact ⟨undivided_cons.mpr ⟨rfl, undivided_nil⟩, (allowed_toString _).undivided⟩

theorem undivided_ite {p : Prop} [Decidable p] {s t : String} (hs : Undivided s.toList)
    (ht : Undivided t.toList) : Undivided (if p then s else t).toList := by
  split
  · exact hs
  · exact ht

theorem undivided_readUser (cs : List Char) : Undivided (readUser cs).toList := by
  have hcolon : Undivided ":".toList := undivided_cons.mpr ⟨rfl, undivided_nil⟩
  have hsign : Undivided "@".toList := undivided_cons.mpr ⟨rfl, undivided_nil⟩
  have hpart (part : List Char) : Undivided (encoded isUserUnsafe part).toList :=
    undivided_encoded (by decide)
  refine undivided_ite undivided_nil ?_
  simp only [String.toList_append, undivided_append]
  refine ⟨⟨hpart _, undivided_ite undivided_nil ?_⟩, hsign⟩
  rw [String.toList_append, undivided_append]
  exact ⟨hcolon, hpart _⟩

/-- An authority is written as user information, host and port, each read alone. -/
theorem readAuthority_eq_ok {default : Option Nat} {rest : List Char}
    (h : readAuthority true default cs = .ok (written, rest)) :
    ∃ name host port hostText portText, written = readUser name ++ hostText ++ portText ∧
      readHost host = .ok hostText ∧ readPort default port = .ok portText := by
  unfold readAuthority at h
  extract_lets authority behind hasUser hostPort name user host after at h
  split at h
  next => cases h
  split at h
  next => cases h
  rename_i port finish _ _
  rw [if_pos rfl] at h
  cases hhost : readHost host with
  | error fault =>
    rw [hhost] at h
    cases h
  | ok hostText =>
    rw [hhost] at h
    cases hport : readPort default port with
    | error fault =>
      simp only [finish, hport, bind, Except.bind] at h
      cases h
    | ok portText =>
      simp only [finish, hport, bind, Except.bind] at h
      cases h
      exact ⟨name, host, port, hostText, portText, rfl, hhost, hport⟩

theorem undivided_readAuthority {default : Option Nat} {rest : List Char}
    (h : readAuthority true default cs = .ok (written, rest)) : Undivided written.toList := by
  obtain ⟨name, host, port, hostText, portText, rfl, hhost, hport⟩ := readAuthority_eq_ok h
  simp only [String.toList_append, undivided_append]
  exact ⟨⟨undivided_readUser name, undivided_readHost hhost⟩, undivided_readPort hport⟩

end Hosts

/-! ## Paths and queries -/

section Paths

variable {cs : List Char} {special : Bool}

theorem parent_subset (done : List String) : parent done ⊆ done := by
  unfold parent
  split
  next =>
    split
    next => exact fun _ h => h
    next => exact fun _ h => List.mem_of_mem_dropLast h
  next => exact fun _ h => h

theorem mem_resolve {done rest : List String} {segment : String} (h : segment ∈ resolve done rest) :
    segment ∈ done ∨ segment ∈ rest ∨ segment = "" := by
  fun_induction resolve done rest with
  | case1 done => exact .inl h
  | case2 done last hup =>
    rcases List.mem_append.mp h with h | h
    · exact .inl (parent_subset done h)
    · exact .inr (.inr (List.mem_singleton.mp h))
  | case3 done last hup hhere =>
    rcases List.mem_append.mp h with h | h
    · exact .inl h
    · exact .inr (.inr (List.mem_singleton.mp h))
  | case4 done last hup hhere =>
    rcases List.mem_append.mp h with h | h
    · exact .inl h
    · exact .inr (.inl h)
  | case5 done up rest hne hup ih =>
    rcases ih h with h | h | h
    · exact .inl (parent_subset done h)
    · exact .inr (.inl (List.mem_cons_of_mem _ h))
    · exact .inr (.inr h)
  | case6 done here rest hne hup hhere ih =>
    rcases ih h with h | h | h
    · exact .inl h
    · exact .inr (.inl (List.mem_cons_of_mem _ h))
    · exact .inr (.inr h)
  | case7 done next rest hne hup hhere ih =>
    rcases ih h with h | h | h
    · rcases List.mem_append.mp h with h | h
      · exact .inl h
      · exact .inr (.inl (List.mem_cons.mpr (.inl (List.mem_singleton.mp h))))
    · exact .inr (.inl (List.mem_cons_of_mem _ h))
    · exact .inr (.inr h)

theorem readPath_toList (special : Bool) (cs : List Char) :
    ∃ more, (readPath special cs).toList = '/' :: more :=
  ⟨_, String.toList_append⟩

theorem endsPath_readPath {c : Char} (hc : c ∈ (readPath special cs).toList) : endsPath c = false := by
  by_contra hends
  have hsign : c = '?' ∨ c = '#' := by
    simpa [endsPath, ← or_iff_not_imp_left] using hends
  have hkept : isPathUnsafe c = true ∧ c ≠ '%' ∧ c.isAlphanum = false ∧ c ≠ '/' := by
    rcases hsign with rfl | rfl <;> decide
  simp only [readPath, String.toList_append, String.toList_intercalate, List.mem_append] at hc
  rcases hc with hc | hc
  · exact hkept.2.2.2 (List.mem_singleton.mp hc)
  rcases mem_intercalate hc with hc | ⟨row, hrow, hc⟩
  · exact hkept.2.2.2 (List.mem_singleton.mp hc)
  obtain ⟨segment, hsegment, rfl⟩ := List.mem_map.mp hrow
  rcases mem_resolve hsegment with h | h | rfl
  · cases h
  · obtain ⟨part, -, rfl⟩ := List.mem_map.mp h
    exact not_mem_encoded hkept.1 ⟨hkept.2.1, hkept.2.2.1⟩ hc
  · cases hc

theorem hash_not_mem_tails {q : String} (h : (tails special cs).1 = some q) : '#' ∉ q.toList := by
  simp only [tails] at h
  split at h
  next =>
    cases h
    cases special with
    | false => exact not_mem_encoded (by decide) (by decide)
    | true => exact not_mem_encoded (by decide) (by decide)
  next => cases h

end Paths

/-! ## Addresses -/

/-- The parts of the address are kept apart by the signs between them. -/
structure Delimited (u : Url) : Prop where
  authority : ∃ written, u.authority = some written ∧ Undivided written.toList
  start : ∃ more, u.path.toList = '/' :: more
  path : ∀ c ∈ u.path.toList, endsPath c = false
  query : ∀ q ∈ u.query, '#' ∉ q.toList

section Addresses

variable {scheme : String} {cs : List Char} {u : Url}

theorem readRest_scheme (h : readRest scheme cs = .ok u) : u.scheme = scheme := by
  simp only [readRest, bind, Except.bind] at h
  split at h
  next =>
    split at h
    next => cases h
    next =>
      cases h
      rfl
  next =>
    split at h
    next =>
      split at h
      next => cases h
      next =>
        cases h
        rfl
    next =>
      split at h
      next =>
        split at h
        next => cases h
        next =>
          cases h
          rfl
      next =>
        cases h
        rfl

theorem delimited_readRest {port : Nat} (hport : defaultPorts.lookup scheme = some port)
    (h : readRest scheme cs = .ok u) : u.Delimited := by
  simp only [readRest, hport, bind, Except.bind] at h
  split at h
  next => cases h
  next found hfound =>
    cases h
    exact ⟨⟨_, rfl, undivided_readAuthority hfound⟩, readPath_toList _ _,
      fun c hc => endsPath_readPath hc, fun q hq => hash_not_mem_tails hq⟩

theorem read_eq_ok {text : String} (h : read text = .ok u) : ∃ scheme cs, readRest scheme cs = .ok u := by
  simp only [read] at h
  split at h
  next =>
    split at h
    next => exact ⟨_, _, h⟩
    next => cases h
  next => cases h

theorem delimited_read {text : String} (h : read text = .ok u)
    (hs : u.scheme = "http" ∨ u.scheme = "https") : u.Delimited := by
  obtain ⟨scheme, cs, hrest⟩ := read_eq_ok h
  obtain rfl := readRest_scheme hrest
  rcases hs with hs | hs
  · rw [hs] at hrest
    exact delimited_readRest (by decide : defaultPorts.lookup "http" = some 80) hrest
  · rw [hs] at hrest
    exact delimited_readRest (by decide : defaultPorts.lookup "https" = some 443) hrest

/-- The request target of an address: what follows `#` is not sent. -/
def target (u : Url) : Http.Uri where
  scheme := some u.scheme
  authority := u.authority
  path := u.path
  query := u.query

end Addresses

/-! ## Targets -/

section Targets

open Challenge (Stops bne_of_not_mem takeWhile_run stops_cons)

variable {path fragment : List Char} {query : Option String}

def signed (sign : Char) (part : Option String) : List Char :=
  (part.map fun s => sign :: s.toList).getD []

theorem stops_signed (sign : Char) (part : Option String) : Stops (· != sign) (signed sign part) := by
  cases part with
  | none => exact Challenge.stops_nil _
  | some s => exact stops_cons.mpr (by simp)

theorem takePath_signed {fragment : Option String} (hp : ∀ c ∈ path, endsPath c = false)
    (hq : ∀ q ∈ query, '#' ∉ q.toList) {taken : String × Option String}
    (h : Http.Uri.takePath (path ++ signed '?' query ++ signed '#' fragment) = .ok taken) :
    taken = (String.ofList path, query) := by
  have hmark : '?' ∉ path := fun hc => absurd (hp '?' hc) (by decide)
  have hhash : '#' ∉ path ++ signed '?' query := by
    intro hc
    rcases List.mem_append.mp hc with hc | hc
    · exact absurd (hp '#' hc) (by decide)
    · cases query with
      | none => cases hc
      | some q =>
        rcases List.mem_cons.mp hc with hc | hc
        · exact absurd hc (by decide)
        · exact hq q rfl hc
  have hvisible : (path ++ signed '?' query ++ signed '#' fragment).takeWhile (· != '#') =
      path ++ signed '?' query := takeWhile_run (bne_of_not_mem hhash) (stops_signed '#' fragment)
  have hpath : (path ++ signed '?' query).takeWhile (· != '?') = path :=
    takeWhile_run (bne_of_not_mem hmark) (stops_signed '?' query)
  simp only [Http.Uri.takePath, hvisible, hpath, List.drop_left] at h
  split at h
  next =>
    cases query with
    | none =>
      cases h
      rfl
    | some q =>
      simp only [signed, Option.map_some, Option.getD_some, String.ofList_toList] at h
      split at h
      next =>
        cases h
        rfl
      next => cases h
  next => cases h

theorem signed_toList {sign : Char} {mark : String} (h : mark.toList = [sign]) (part : Option String) :
    ((part.map (mark ++ ·)).getD "").toList = signed sign part := by
  cases part with
  | none => rfl
  | some s => simp [signed, h]

theorem text_toList {u : Url} {written : String} (h : u.authority = some written) :
    u.text.toList = u.scheme.toList ++ ':' :: '/' :: '/' ::
      (written.toList ++ (u.path.toList ++ signed '?' u.query ++ signed '#' u.fragment)) := by
  have hquery : ((u.query.map ("?" ++ ·)).getD "").toList = signed '?' u.query :=
    signed_toList (by decide) _
  have hfragment : ((u.fragment.map ("#" ++ ·)).getD "").toList = signed '#' u.fragment :=
    signed_toList (by decide) _
  simp [text, h, hquery, hfragment]

/-- An address that is accepted as a request target is kept part by part. -/
theorem Delimited.target_eq {u : Url} {uri : Http.Uri} (hd : u.Delimited)
    (hs : u.scheme = "http" ∨ u.scheme = "https") (h : Http.Uri.read u.text = .ok uri) :
    uri = u.target := by
  obtain ⟨written, hwritten, hundivided⟩ := hd.authority
  obtain ⟨more, hstart⟩ := hd.start
  have hlower : u.scheme.toLower = u.scheme := by
    rcases hs with hs | hs <;> rw [hs] <;> decide +kernel
  have hscheme : (String.ofList u.scheme.toList).toLower = "http" ∨
      (String.ofList u.scheme.toList).toLower = "https" := by
    rwa [String.ofList_toList, hlower]
  have hinner : ∀ c ∈ written.toList, c ≠ '/' ∧ c ≠ '?' ∧ c ≠ '#' := by
    intro c hc
    simpa [isDelimiter, and_assoc] using hundivided c hc
  have htail : ∀ c ∈ (u.path.toList ++ signed '?' u.query ++ signed '#' u.fragment).head?,
      c = '/' ∨ c = '?' ∨ c = '#' := by
    intro c hc
    simp only [hstart, List.cons_append, List.head?_cons, Option.mem_some_iff] at hc
    exact .inl hc.symm
  obtain ⟨path, query, hpath, rfl⟩ :=
    Http.Uri.read_parts hscheme hinner htail (text_toList hwritten) h
  obtain ⟨rfl, rfl⟩ := Prod.mk.inj (takePath_signed hd.path hd.query hpath)
  have hnonempty : u.path ≠ "" := by
    intro hempty
    rw [hempty] at hstart
    cases hstart
  simp only [String.ofList_toList, String.isEmpty_iff, if_neg hnonempty, hlower, target, hwritten]

end Targets

end BearerTokens.Url
