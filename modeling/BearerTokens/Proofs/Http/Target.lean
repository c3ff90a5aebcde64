import Mathlib.Data.List.Induction
import BearerTokens.Http.Uri
import BearerTokens.Proofs.Challenge.Reading

/-! # Absolute targets and their parts

An absolute target is laid out as a scheme, `://`, an authority and a tail, and the authority as user
information, a host and a port.  Reading the target finds just these parts: the host is the one that stands
behind the user information, and the port the one behind the last colon.
-/

namespace BearerTokens.Http.Uri

open Challenge (Stops bne_of_not_mem takeWhile_run stops_cons)

/-! ## The last run of a text -/

section LastRun

variable {c d : Char} {cs before after : List Char}

def lastRun (c : Char) (cs : List Char) : List Char := (cs.reverse.takeWhile (· != c)).reverse

theorem lastRun_append (h : c ∉ after) : lastRun c (before ++ after) = lastRun c before ++ after := by
  have hall : ∀ d ∈ after.reverse, (d != c) = true := bne_of_not_mem (by simpa using h)
  rw [lastRun, List.reverse_append, List.takeWhile_append_of_pos hall, List.reverse_append,
    List.reverse_reverse, lastRun]

theorem lastRun_eq_nil (h : before = [] ∨ before.getLast? = some c) : lastRun c before = [] := by
  rcases h with rfl | h
  · rfl
  · obtain ⟨ys, rfl⟩ := List.getLast?_eq_some_iff.mp h
    simp [lastRun]

theorem lastRun_eq (h : before = [] ∨ before.getLast? = some c) (ha : c ∉ after) :
    lastRun c (before ++ after) = after := by
  rw [lastRun_append ha, lastRun_eq_nil h, List.nil_append]

theorem exists_lastRun (c : Char) (cs : List Char) : ∃ before after, cs = before ++ after ∧
    (before = [] ∨ before.getLast? = some c) ∧ c ∉ after := by
  induction cs using List.reverseRecOn with
  | nil => exact ⟨[], [], rfl, .inl rfl, List.not_mem_nil⟩
  | append_singleton cs d ih =>
    by_cases hd : d = c
    · subst hd
      exact ⟨cs ++ [d], [], by simp, .inr (by simp), List.not_mem_nil⟩
    · obtain ⟨before, after, rfl, hb, ha⟩ := ih
      refine ⟨before, after ++ [d], by simp, hb, ?_⟩
      simpa using ⟨ha, Ne.symm hd⟩

end LastRun

/-! ## Layouts -/

/-- The parts of an absolute target.  Between a host in brackets and the port there may be text that belongs
to neither. -/
structure Layout where
  scheme : List Char
  /-- User information with the sign that closes it. -/
  user : List Char
  host : List Char
  filler : List Char
  port : Option (List Char)
  /-- Path, query and fragment. -/
  tail : List Char

namespace Layout

def portText (l : Layout) : List Char := (l.port.map (':' :: ·)).getD []

def authority (l : Layout) : List Char := l.user ++ (l.host ++ (l.filler ++ l.portText))

def text (l : Layout) : List Char := l.scheme ++ ':' :: '/' :: '/' :: (l.authority ++ l.tail)

/-- The scheme is `https`, the authority ends where the tail starts, the user information with the last `@`,
and the host with its closing bracket or before the first colon. -/
structure Lawful (l : Layout) : Prop where
  scheme : (String.ofList l.scheme).toLower = "https"
  authority : ∀ c ∈ l.authority, c ≠ '/' ∧ c ≠ '?' ∧ c ≠ '#'
  tail : ∀ c ∈ l.tail.head?, c = '/' ∨ c = '?' ∨ c = '#'
  user : l.user = [] ∨ l.user.getLast? = some '@'
  sign : '@' ∉ l.host ++ (l.filler ++ l.portText)
  host : (∃ inner, l.host = '[' :: inner ++ [']'] ∧ ']' ∉ inner) ∨
    (l.host.head? ≠ some '[' ∧ ':' ∉ l.host ∧ ∀ c ∈ (l.filler ++ l.portText).head?, c = ':')
  port : ':' ∉ l.port.getD l.filler

end Layout

structure Shows (text : String) (l : Layout) : Prop where
  lawful : l.Lawful
  eq : text.toList = l.text

/-! ## Reading a layout -/

section Reading

variable {scheme authority tail cs : List Char} {text : String} {u : Uri}

theorem isSchemeChar_of_mem (h : (String.ofList scheme).toLower = "http" ∨
    (String.ofList scheme).toLower = "https") : ∀ c ∈ scheme, isSchemeChar c = true := by
  intro c hc
  have hmem : c.toLower ∈ (String.ofList scheme).toLower.toList := by
    have hmap : (String.ofList scheme).toLower = (String.ofList scheme).map Char.toLower := rfl
    rw [hmap, String.toList_map, String.toList_ofList]
    exact List.mem_map_of_mem hc
  have hlower : c.toLower ∈ ['h', 't', 'p', 's'] := by
    rcases h with h | h <;> rw [h] at hmem <;> simp at hmem ⊢ <;> tauto
  unfold Char.toLower at hlower
  split at hlower
  next hu =>
    have hupper : c.isUpper = true := decide_eq_true hu
    have hparts : c.isAlphanum = (c.isUpper || c.isLower || c.isDigit) := rfl
    simp [isSchemeChar, hparts, hupper]
  next =>
    simp only [List.mem_cons, List.not_mem_nil, or_false] at hlower
    rcases hlower with rfl | rfl | rfl | rfl <;> decide

theorem takeScheme_text (h : (String.ofList scheme).toLower = "http" ∨
    (String.ofList scheme).toLower = "https") (rest : List Char) :
    takeScheme (scheme ++ ':' :: '/' :: '/' :: rest) =
      .ok (some (String.ofList scheme).toLower, rest) := by
  have hstops : Stops isSchemeChar (':' :: '/' :: '/' :: rest) := stops_cons.mpr (by decide)
  rw [takeScheme, takeWhile_run (isSchemeChar_of_mem h) hstops, List.drop_left]
  exact if_pos h

theorem takeAuthority_eq_ok (h : takeAuthority cs = .ok authority) :
    authority = cs.takeWhile (!endsAuthority ·) ∧
      ∃ scan, authority.foldlM Scan.step {} = .ok scan ∧ scan.isGood = true := by
  simp only [takeAuthority, bind, Except.bind] at h
  split at h
  next => cases h
  next scan hscan =>
    split at h
    next => cases h
    split at h
    next hgood =>
      cases h
      exact ⟨rfl, scan, hscan, hgood⟩
    next => cases h

theorem takeWhile_authority (ha : ∀ c ∈ authority, c ≠ '/' ∧ c ≠ '?' ∧ c ≠ '#')
    (ht : ∀ c ∈ tail.head?, c = '/' ∨ c = '?' ∨ c = '#') :
    (authority ++ tail).takeWhile (!endsAuthority ·) = authority := by
  apply takeWhile_run
  · intro c hc
    obtain ⟨h₁, h₂, h₃⟩ := ha c hc
    simp [endsAuthority, h₁, h₂, h₃]
  · intro c hc
    rcases ht c hc with rfl | rfl | rfl <;> rfl

theorem read_eq_readFull (htext : text.toList = scheme ++ ':' :: '/' :: '/' :: cs)
    (hs : ∀ c ∈ scheme, isSchemeChar c = true) (h : read text = .ok u) :
    readFull text.toList = .ok u := by
  have hlength : 3 ≤ text.toList.length := by
    rw [htext, List.length_append]
    simp only [List.length_cons]
    omega
  have hslash (rest : List Char) : text.toList ≠ '/' :: rest := by
    intro heq
    rw [htext] at heq
    cases scheme with
    | nil => cases heq
    | cons c scheme =>
      obtain ⟨rfl, -⟩ := List.cons.inj heq
      exact absurd (hs '/' List.mem_cons_self) (by decide)
  unfold read at h
  split at h
  next => cases h
  split at h
  next hnil => simp [hnil] at hlength
  next hstar => simp [hstar] at hlength
  next hrest => exact absurd hrest (hslash _)
  next hone => simp [hone] at hlength
  next => exact h

/-- An absolute target with the scheme `http` or `https` is read part by part. -/
theorem read_parts (hs : (String.ofList scheme).toLower = "http" ∨
    (String.ofList scheme).toLower = "https") (ha : ∀ c ∈ authority, c ≠ '/' ∧ c ≠ '?' ∧ c ≠ '#')
    (ht : ∀ c ∈ tail.head?, c = '/' ∨ c = '?' ∨ c = '#')
    (htext : text.toList = scheme ++ ':' :: '/' :: '/' :: (authority ++ tail))
    (h : read text = .ok u) : ∃ path query, takePath tail = .ok (path, query) ∧
      u = { scheme := some (String.ofList scheme).toLower,
            authority := some (String.ofList authority),
            path := if path.isEmpty then "/" else path, query } := by
  have hfull := read_eq_readFull htext (isSchemeChar_of_mem hs) h
  simp only [htext, readFull, takeScheme_text hs, bind, Except.bind] at hfull
  split at hfull
  next => cases hfull
  next found hfound =>
    obtain ⟨hfound, -⟩ := takeAuthority_eq_ok hfound
    rw [takeWhile_authority ha ht] at hfound
    subst hfound
    rw [List.drop_left] at hfull
    split at hfull
    next => cases hfull
    split at hfull
    next => cases hfull
    next path hpath =>
      cases hfull
      exact ⟨_, _, hpath, rfl⟩

theorem takeScheme_eq_ok {name : String} {rest : List Char} (h : takeScheme cs = .ok (some name, rest)) :
    ∃ scheme, cs = scheme ++ ':' :: '/' :: '/' :: rest ∧
      (name = (String.ofList scheme).toLower ∨ name = String.ofList scheme) := by
  have hcut : cs = cs.takeWhile isSchemeChar ++ cs.drop (cs.takeWhile isSchemeChar).length := by
    nth_rewrite 1 [← List.take_append_drop (cs.takeWhile isSchemeChar).length cs]
    rw [(List.prefix_iff_eq_take.mp (List.takeWhile_prefix _)).symm]
  simp only [takeScheme] at h
  split at h
  next hdrop =>
    rw [hdrop] at hcut
    split at h
    next =>
      cases h
      exact ⟨_, hcut, .inl rfl⟩
    split at h
    next => cases h
    split at h
    next => cases h
    next =>
      cases h
      exact ⟨_, hcut, .inr rfl⟩
  next => cases h

theorem read_relative_or (h : read text = .ok u) : u.scheme = none ∨ readFull text.toList = .ok u := by
  unfold read at h
  split at h
  next => cases h
  split at h
  next => cases h
  next =>
    cases h
    exact .inl rfl
  next =>
    simp only [bind, Except.bind] at h
    split at h
    next => cases h
    next =>
      cases h
      exact .inl rfl
  next =>
    simp only [bind, Except.bind] at h
    split at h
    next => cases h
    split at h
    next => cases h
    next =>
      cases h
      exact .inl rfl
  next => exact .inr h

theorem readFull_eq_ok {name : String} (h : readFull cs = .ok u) (hs : u.scheme = some name) :
    ∃ rest authority, takeScheme cs = .ok (some name, rest) ∧ takeAuthority rest = .ok authority := by
  simp only [readFull, bind, Except.bind] at h
  split at h
  next => cases h
  next found hscheme =>
    obtain ⟨written, rest⟩ := found
    split at h
    next => cases h
    next authority hauthority =>
      refine ⟨rest, authority, ?_, hauthority⟩
      cases written with
      | none =>
        simp only at h
        split at h
        next =>
          cases h
          cases hs
        next => cases h
      | some written =>
        simp only at h
        split at h
        next => cases h
        split at h
        next => cases h
        next =>
          cases h
          obtain rfl := Option.some.inj hs
          exact hscheme

theorem read_absolute {name : String} (h : read text = .ok u) (hs : u.scheme = some name) :
    ∃ scheme authority tail, text.toList = scheme ++ ':' :: '/' :: '/' :: (authority ++ tail) ∧
      (name = (String.ofList scheme).toLower ∨ name = String.ofList scheme) ∧
      takeAuthority (authority ++ tail) = .ok authority := by
  have hfull : readFull text.toList = .ok u := by
    rcases read_relative_or h with hnone | hfull
    · rw [hs] at hnone
      cases hnone
    · exact hfull
  obtain ⟨rest, authority, hscheme, hauthority⟩ := readFull_eq_ok hfull hs
  obtain ⟨scheme, htext, hname⟩ := takeScheme_eq_ok hscheme
  have hcut : rest = authority ++ rest.dropWhile (!endsAuthority ·) := by
    rw [(takeAuthority_eq_ok hauthority).1, List.takeWhile_append_dropWhile]
  refine ⟨scheme, authority, _, ?_, hname, hcut ▸ hauthority⟩
  rw [htext, ← hcut]

end Reading

/-! ## Brackets -/

section Brackets

variable {s s' : Scan} {c : Char} {cs before after : List Char}

theorem Scan.step_keeps {P : Scan → Prop} (hrun : cs.foldlM Scan.step s = .ok s') (hs : P s)
    (hstep : ∀ c ∈ cs, ∀ s s', s.step c = .ok s' → P s → P s') : P s' := by
  induction cs generalizing s with
  | nil =>
    cases hrun
    exact hs
  | cons c cs ih =>
    rw [List.foldlM_cons] at hrun
    cases hc : s.step c with
    | error fault =>
      rw [hc] at hrun
      cases hrun
    | ok next =>
      rw [hc] at hrun
      apply ih hrun (hstep c List.mem_cons_self s next hc hs)
      intro d hd
      exact hstep d (List.mem_cons_of_mem _ hd)

theorem Scan.step_opened (h : s.step c = .ok s') (hs : s.opened = true) : s'.opened = true := by
  grind [Scan.step]

theorem Scan.step_closed (h : s.step c = .ok s') (hc : c ≠ ']') : s'.closed = s.closed := by
  grind [Scan.step]

theorem Scan.step_matched (h : s.step c = .ok s') (hs : s.closed = true → s.opened = true) :
    s'.closed = true → s'.opened = true := by
  grind [Scan.step]

theorem Scan.step_open (h : s.step '[' = .ok s') :
    s.opened = false ∧ s'.opened = true ∧ s'.closed = s.closed := by
  grind [Scan.step]

/-- A bracket that is opened is closed later on. -/
theorem mem_close {scan : Scan} (h : (before ++ '[' :: after).foldlM Scan.step {} = .ok scan)
    (hgood : scan.isGood = true) : ']' ∈ after := by
  rw [List.foldlM_append] at h
  obtain ⟨s₁, h₁, h⟩ : ∃ s₁, before.foldlM Scan.step {} = .ok s₁ ∧
      ('[' :: after).foldlM Scan.step s₁ = .ok scan := by
    cases hb : before.foldlM Scan.step {} with
    | error => rw [hb] at h; cases h
    | ok s₁ => rw [hb] at h; exact ⟨s₁, rfl, h⟩
  obtain ⟨s₂, h₂, h⟩ : ∃ s₂, s₁.step '[' = .ok s₂ ∧ after.foldlM Scan.step s₂ = .ok scan := by
    rw [List.foldlM_cons] at h
    cases hb : s₁.step '[' with
    | error => rw [hb] at h; cases h
    | ok s₂ => rw [hb] at h; exact ⟨s₂, rfl, h⟩
  have hmatched : s₁.closed = true → s₁.opened = true :=
    Scan.step_keeps (P := fun s => s.closed = true → s.opened = true) h₁ (by simp)
      fun c _ s s' hc hs => Scan.step_matched hc hs
  obtain ⟨hfresh, hopened, hclosed⟩ := Scan.step_open h₂
  by_contra hnone
  have hstill : scan.closed = s₂.closed :=
    Scan.step_keeps (P := fun s => s.closed = s₂.closed) h rfl fun c hc s s' hs heq => by
      rw [Scan.step_closed hs (fun hclose => hnone (hclose ▸ hc)), heq]
  have hopen : scan.opened = true :=
    Scan.step_keeps (P := fun s => s.opened = true) h hopened fun c _ s s' hc hs =>
      Scan.step_opened hc hs
  simp [Scan.isGood, hopen, hstill, hclosed] at hgood
  rw [hmatched hgood.1.1.1] at hfresh
  cases hfresh

end Brackets

/-! ## Hosts and ports -/

section Parts

variable {cs authority tail : List Char} {text : String} {u : Uri} {l : Layout}

theorem exists_host (h : cs.head? = some '[' → ']' ∈ cs) : ∃ host rest, cs = host ++ rest ∧
    ((∃ inner, host = '[' :: inner ++ [']'] ∧ ']' ∉ inner) ∨
      (host.head? ≠ some '[' ∧ ':' ∉ host ∧ ∀ c ∈ rest.head?, c = ':')) := by
  by_cases hopen : cs.head? = some '['
  · obtain ⟨more, rfl⟩ := List.head?_eq_some_iff.mp hopen
    have hclose : ']' ∈ more := by simpa using h hopen
    obtain ⟨inner, rest, rfl, hinner⟩ := List.eq_append_cons_of_mem hclose
    exact ⟨'[' :: inner ++ [']'], rest, by simp, .inl ⟨inner, rfl, hinner⟩⟩
  · by_cases hcolon : ':' ∈ cs
    · obtain ⟨host, rest, rfl, hhost⟩ := List.eq_append_cons_of_mem hcolon
      refine ⟨host, ':' :: rest, rfl, .inr ⟨?_, hhost, by simp⟩⟩
      cases host with
      | nil => simp
      | cons c host => simpa using hopen
    · exact ⟨cs, [], by simp, .inr ⟨hopen, hcolon, by simp⟩⟩

theorem exists_port (rest : List Char) : ∃ (filler : List Char) (port : Option (List Char)),
    rest = filler ++ (port.map (':' :: ·)).getD [] ∧ ':' ∉ port.getD filler := by
  obtain ⟨before, after, rfl, hb, ha⟩ := exists_lastRun ':' rest
  rcases hb with rfl | hb
  · exact ⟨after, none, by simp, ha⟩
  · obtain ⟨filler, rfl⟩ := List.getLast?_eq_some_iff.mp hb
    exact ⟨filler, some after, by simp, ha⟩

/-- Every target that is read with the scheme `https` has a layout. -/
theorem exists_layout (h : read text = .ok u) (hs : u.scheme = some "https") :
    ∃ l, Shows text l := by
  obtain ⟨scheme, authority, tail, htext, hscheme, hauthority⟩ := read_absolute h hs
  obtain ⟨hrun, scan, hscan, hgood⟩ := takeAuthority_eq_ok hauthority
  have hwithin : ∀ c ∈ authority, (!endsAuthority c) = true := by
    intro c hc
    rw [hrun] at hc
    exact List.all_eq_true.mp List.all_takeWhile c hc
  obtain ⟨user, site, rfl, huser, hsign⟩ := exists_lastRun '@' authority
  have hclosed : site.head? = some '[' → ']' ∈ site := by
    intro hopen
    obtain ⟨more, rfl⟩ := List.head?_eq_some_iff.mp hopen
    exact List.mem_cons_of_mem _ (mem_close hscan hgood)
  obtain ⟨host, rest, rfl, hhost⟩ := exists_host hclosed
  obtain ⟨filler, port, rfl, hport⟩ := exists_port rest
  refine ⟨⟨scheme, user, host, filler, port, tail⟩, ⟨?_, ?_, ?_, huser, hsign, hhost, hport⟩, ?_⟩
  · rcases hscheme with hscheme | hscheme
    · exact hscheme.symm
    · rw [← hscheme]
      decide +kernel
  · intro c hc
    have hnot := hwithin c hc
    simpa [endsAuthority, and_assoc] using hnot
  · intro c hc
    rw [List.takeWhile_append_of_pos hwithin, List.self_eq_append_right] at hrun
    obtain ⟨more, rfl⟩ := List.head?_eq_some_iff.mp hc
    have hends : (!endsAuthority c) = false := by
      by_contra hnot
      rw [List.takeWhile_cons_of_pos (by simpa using hnot)] at hrun
      cases hrun
    simpa [endsAuthority, ← or_iff_not_imp_left] using hends
  · exact htext

theorem hostPort_eq (hl : l.Lawful) :
    hostPort (String.ofList l.authority) = l.host ++ (l.filler ++ l.portText) := by
  have hrun := lastRun_eq hl.user hl.sign
  rw [hostPort, String.toList_ofList]
  exact hrun

theorem Layout.Lawful.host?_eq (hl : l.Lawful) (hu : u.authority = some (String.ofList l.authority)) :
    u.host? = some (String.ofList l.host) := by
  rw [host?, hu]
  simp only [Option.bind_eq_bind, Option.bind_some, hostPort_eq hl]
  rcases hl.host with ⟨inner, hhost, hinner⟩ | ⟨hopen, hcolon, hrest⟩
  · have hrun : ∀ c ∈ '[' :: inner, (c != ']') = true := bne_of_not_mem (by simpa using hinner)
    have hstops : Stops (· != ']') (']' :: (l.filler ++ l.portText)) := stops_cons.mpr (by decide)
    have htake := takeWhile_run hrun hstops
    simp only [hhost, List.cons_append, List.append_assoc, List.nil_append] at htake ⊢
    rw [htake]
    rfl
  · have hrun : ∀ c ∈ l.host, (c != ':') = true := bne_of_not_mem hcolon
    have hstops : Stops (· != ':') (l.filler ++ l.portText) := by
      intro c hc
      rw [hrest c hc]
      rfl
    have htake := takeWhile_run hrun hstops
    split
    next more hmore =>
      -- neither a plain host nor what follows it starts with a bracket
      have hhead : (l.host ++ (l.filler ++ l.portText)).head? = some '[' := by rw [hmore]; rfl
      cases hhost : l.host with
      | nil =>
        rw [hhost] at hhead
        exact absurd (hrest '[' hhead) (by decide)
      | cons c host =>
        rw [hhost] at hhead hopen
        exact absurd hhead hopen
    next => rw [htake]

theorem portNumber?_eq_none {c : Char} (hc : c ∈ cs) (hplus : c ≠ '+') (hdigit : c.isDigit = false) :
    portNumber? cs = none := by
  have hnot (digits : List Char) (hd : c ∈ digits) : digits.all Char.isDigit = false := by
    rw [List.all_eq_false]
    exact ⟨c, hd, by simpa using hdigit⟩
  unfold portNumber?
  split
  next rest =>
    have hd : c ∈ rest := (List.mem_cons.mp hc).resolve_left hplus
    simp [hnot rest hd]
  next => simp [hnot cs hc]

theorem portNumber?_digits {digits : List Char} (hne : digits ≠ [])
    (hd : ∀ c ∈ digits, c.isDigit = true) : portNumber? digits =
      if Nat.ofDigitChars 10 digits 0 < 65536 then some (Nat.ofDigitChars 10 digits 0) else none := by
  have hvalue : digits.foldl (fun n c => n * 10 + (c.toNat - 48)) 0 = Nat.ofDigitChars 10 digits 0 := by
    rw [Nat.ofDigitChars]
    congr 1
    funext n c
    rw [Nat.mul_comm]
    rfl
  have hall : digits.all Char.isDigit = true := List.all_eq_true.mpr hd
  unfold portNumber?
  split
  next rest => exact absurd (hd '+' List.mem_cons_self) (by decide)
  next => simp [hvalue, hall, hne]

theorem port?_eq (hu : u.authority = some (String.ofList authority)) :
    u.port? = if ':' ∈ authority then portNumber? (lastRun ':' authority) else none := by
  rw [port?, hu]
  simp only [Option.bind_eq_bind, Option.bind_some, String.toList_ofList, List.contains_iff_mem]
  rfl

/-- What stands behind the last colon is no number where that colon belongs to the user information or to a
host in brackets. -/
theorem Layout.Lawful.port?_eq (hl : l.Lawful) (hu : u.authority = some (String.ofList l.authority)) :
    u.port? = l.port.bind portNumber? := by
  rw [Uri.port?_eq hu]
  cases hport : l.port with
  | some port =>
    have hcolon : ':' ∉ port := by simpa [hport] using hl.port
    have hauthority : l.authority = (l.user ++ l.host ++ l.filler ++ [':']) ++ port := by
      simp [Layout.authority, Layout.portText, hport]
    rw [hauthority, lastRun_eq (.inr (by simp)) hcolon, if_pos (by simp)]
    rfl
  | none =>
    have hfiller : ':' ∉ l.filler := by simpa [hport] using hl.port
    have hauthority : l.authority = l.user ++ (l.host ++ l.filler) := by
      simp [Layout.authority, Layout.portText, hport]
    rw [hauthority]
    split
    next hcolon =>
      rcases hl.host with ⟨inner, hhost, -⟩ | ⟨-, hhost, -⟩
      · have hlast : lastRun ':' (l.user ++ (l.host ++ l.filler)) =
            lastRun ':' (l.user ++ '[' :: inner) ++ ']' :: l.filler := by
          rw [← lastRun_append (by simpa using hfiller), hhost]
          simp
        rw [hlast]
        exact portNumber?_eq_none (c := ']') (by simp) (by decide) (by decide)
      · rcases hl.user with huser | huser
        · simp [huser, hhost, hfiller] at hcolon
        · obtain ⟨name, huser⟩ := List.getLast?_eq_some_iff.mp huser
          have hlast : lastRun ':' (l.user ++ (l.host ++ l.filler)) =
              lastRun ':' name ++ '@' :: (l.host ++ l.filler) := by
            rw [← lastRun_append (by simp [hhost, hfiller]), huser]
            simp
          rw [hlast]
          exact portNumber?_eq_none (c := '@') (by simp) (by decide) (by decide)
    next => rfl

theorem Shows.authority_eq (h : Shows text l) (hu : read text = .ok u) :
    u.authority = some (String.ofList l.authority) := by
  obtain ⟨path, query, -, rfl⟩ :=
    read_parts (.inr h.lawful.scheme) h.lawful.authority h.lawful.tail h.eq hu
  rfl

end Parts

end BearerTokens.Http.Uri
