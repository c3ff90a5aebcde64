import BearerTokens.Context.Fingerprint
import BearerTokens.Proofs.Text.Base64

/-! # Which contexts share a fingerprint

The byte string that is digested closes each scope with NUL and tells by a tag whether claims follow.  Scopes and
claims that hold no NUL can be read back from it.  A scope that holds one is not told from the scopes between its
NULs, and claims may hold what would be the rest of a scope that starts with the tag.  These are the only contexts
that are confused, unless the digest itself collides.
-/

namespace BearerTokens

/-! ## Bytes and digests -/

theorem Text.utf8_inj {s t : String} : utf8 s = utf8 t ↔ s = t := by
  constructor
  · intro h
    have hback := congrArg ofUtf8? h
    simpa [ofUtf8?_utf8] using hback
  · rintro rfl
    rfl

def Sha256.Collide (message message' : List UInt8) : Prop :=
  message ≠ message' ∧ digest message = digest message'

namespace Context

theorem fingerprint_eq_iff_digest {a b : Context} : a.fingerprint = b.fingerprint ↔
    Sha256.digest a.fingerprintInput = Sha256.digest b.fingerprintInput := by
  constructor
  · intro h
    have hcodes := congrArg (Text.Base64.decode Text.Base64.standard ·.toList) h
    simpa [fingerprint, Text.Base64.decode_encode Text.Base64.lawful_standard] using hcodes
  · intro h
    rw [fingerprint, fingerprint, h]

/-! ## The digested text -/

def closed (scopes : List String) : List Char := scopes.flatMap fun s => s.toList ++ ['\x00']

def tagged : Option String → List Char
  | some claims => '\x01' :: claims.toList
  | none => ['\x02']

def spelled (c : Context) : List Char := closed c.scopes ++ tagged c.claims

theorem utf8_closed (scopes : List String) :
    Text.utf8 (String.ofList (closed scopes)) = scopeBytes scopes := by
  induction scopes with
  | nil => rfl
  | cons s scopes ih =>
    have hnul : Text.utf8 (String.ofList ['\x00']) = [0] := by decide
    rw [closed, List.flatMap_cons, ← closed, scopeBytes, List.flatMap_cons, ← scopeBytes, ← ih]
    simp only [String.ofList_append, Text.utf8_append, String.ofList_toList, hnul]

theorem utf8_tagged (claims : Option String) :
    Text.utf8 (String.ofList (tagged claims)) = claimBytes claims := by
  cases claims with
  | none => decide
  | some claims =>
    have htag : Text.utf8 (String.ofList ['\x01']) = [1] := by decide
    rw [tagged, ← List.singleton_append, String.ofList_append, Text.utf8_append, htag,
      String.ofList_toList]
    rfl

theorem fingerprintInput_inj {a b : Context} :
    a.fingerprintInput = b.fingerprintInput ↔ a.spelled = b.spelled := by
  have hinput (c : Context) : c.fingerprintInput = Text.utf8 (String.ofList c.spelled) := by
    rw [spelled, String.ofList_append, Text.utf8_append, utf8_closed, utf8_tagged, fingerprintInput]
  rw [hinput, hinput, Text.utf8_inj, String.ofList_inj]

/-! ## Scopes without NUL -/

theorem cut_unique {c : Char} {x y r r' : List Char} (hx : c ∉ x) (hy : c ∉ y)
    (h : x ++ c :: r = y ++ c :: r') : x = y ∧ r = r' := by
  induction x generalizing y with
  | nil =>
    cases y with
    | nil => exact ⟨rfl, (List.cons.inj h).2⟩
    | cons d y => exact absurd (List.mem_cons.mpr (.inl (List.cons.inj h).1)) hy
  | cons d x ih =>
    cases y with
    | nil => exact absurd (List.mem_cons.mpr (.inl (List.cons.inj h).1.symm)) hx
    | cons e y =>
      obtain ⟨rfl, htail⟩ := List.cons.inj h
      obtain ⟨rfl, hr⟩ := ih (mt (List.mem_cons_of_mem _) hx) (mt (List.mem_cons_of_mem _) hy) htail
      exact ⟨rfl, hr⟩

/-- One row of scopes goes on where the other one is over, or they are the same. -/
theorem closed_append_eq {ss ts : List String} {p q : List Char} (hs : ∀ s ∈ ss, '\x00' ∉ s.toList)
    (ht : ∀ t ∈ ts, '\x00' ∉ t.toList) (h : closed ss ++ p = closed ts ++ q) :
    (ss = ts ∧ p = q) ∨ (∃ t later, ts = ss ++ t :: later ∧ p = closed (t :: later) ++ q) ∨
      ∃ s later, ss = ts ++ s :: later ∧ q = closed (s :: later) ++ p := by
  induction ss generalizing ts with
  | nil =>
    cases ts with
    | nil => exact .inl ⟨rfl, h⟩
    | cons t later => exact .inr (.inl ⟨t, later, rfl, h⟩)
  | cons s ss ih =>
    cases ts with
    | nil => exact .inr (.inr ⟨s, ss, rfl, h.symm⟩)
    | cons t ts =>
      have hfirst : s.toList ++ '\x00' :: (closed ss ++ p) = t.toList ++ '\x00' :: (closed ts ++ q) := by
        simpa [closed] using h
      obtain ⟨heq, hrest⟩ := cut_unique (hs s List.mem_cons_self) (ht t List.mem_cons_self) hfirst
      obtain rfl := String.toList_inj.mp heq
      have hs' := fun s hm => hs s (List.mem_cons_of_mem _ hm)
      have ht' := fun t hm => ht t (List.mem_cons_of_mem _ hm)
      rcases ih hs' ht' hrest with ⟨rfl, hp⟩ | ⟨t, later, rfl, hp⟩ | ⟨t, later, rfl, hq⟩
      · exact .inl ⟨rfl, hp⟩
      · exact .inr (.inl ⟨t, later, rfl, hp⟩)
      · exact .inr (.inr ⟨t, later, rfl, hq⟩)

theorem tagged_inj {claims claims' : Option String} (h : tagged claims = tagged claims') :
    claims = claims' := by
  cases claims with
  | none =>
    cases claims' with
    | none => rfl
    | some => exact absurd (List.cons.inj h).1 (by decide)
  | some claims =>
    cases claims' with
    | none => exact absurd (List.cons.inj h).1 (by decide)
    | some claims' => rw [String.toList_inj.mp (List.cons.inj h).2]

/-- The claims of the first context hold what the second one has behind the same scopes, but for the first
character there, which is the tag of claims. -/
structure Swallows (a b : Context) : Prop where
  intro ::
  claims : ∃ first later, b.scopes = a.scopes ++ ("\x01" ++ first) :: later ∧
    a.claims = some (first ++ "\x00" ++ String.ofList (spelled { scopes := later, claims := b.claims }))

theorem swallows_of_tagged {a b : Context} {t : String} {later : List String}
    (hs : b.scopes = a.scopes ++ t :: later)
    (hc : tagged a.claims = closed (t :: later) ++ tagged b.claims) : Swallows a b := by
  have htext : closed (t :: later) ++ tagged b.claims =
      t.toList ++ '\x00' :: spelled { scopes := later, claims := b.claims } := by
    simp [closed, spelled]
  rw [htext] at hc
  cases ha : a.claims with
  | none =>
    rw [ha] at hc
    have hnul : '\x00' ∈ tagged none := by rw [hc]; simp
    exact absurd hnul (by decide)
  | some claims =>
    rw [ha] at hc
    cases ht : t.toList with
    | nil =>
      rw [ht] at hc
      exact absurd (List.cons.inj hc).1 (by decide)
    | cons d first =>
      rw [ht] at hc
      obtain ⟨rfl, hclaims⟩ := List.cons.inj hc
      have hmark : t = "\x01" ++ String.ofList first := by
        apply String.toList_inj.mp
        simp [ht]
      refine ⟨String.ofList first, later, ?_, ?_⟩
      · rw [hs, hmark]
      · rw [ha, Option.some_inj]
        apply String.toList_inj.mp
        simp [hclaims]

theorem Swallows.spelled_eq {a b : Context} (h : Swallows a b) : a.spelled = b.spelled := by
  obtain ⟨first, later, hs, hc⟩ := h.claims
  simp [spelled, hs, hc, closed, tagged]

theorem spelled_eq_iff {a b : Context} (ha : ∀ s ∈ a.scopes, '\x00' ∉ s.toList)
    (hb : ∀ s ∈ b.scopes, '\x00' ∉ s.toList) :
    a.spelled = b.spelled ↔ a.Equivalent b ∨ Swallows a b ∨ Swallows b a := by
  constructor
  · intro h
    rcases closed_append_eq ha hb h with ⟨hs, hc⟩ | ⟨t, later, hs, hc⟩ | ⟨s, later, hs, hc⟩
    · exact .inl ⟨hs, tagged_inj hc⟩
    · exact .inr (.inl (swallows_of_tagged hs hc))
    · exact .inr (.inr (swallows_of_tagged hs hc))
  · rintro (⟨hs, hc⟩ | h | h)
    · rw [spelled, spelled, hs, hc]
    · exact h.spelled_eq
    · exact h.spelled_eq.symm

/-! ## Scopes with NUL -/

def pieces (scope : String) : List String := (scope.toList.splitOn '\x00').map String.ofList

def cut (c : Context) : Context := { c with scopes := c.scopes.flatMap pieces }

theorem not_mem_of_mem_splitOn {α : Type} [DecidableEq α] {x : α} {xs piece : List α}
    (h : piece ∈ xs.splitOn x) : x ∉ piece := by
  rw [List.splitOn_eq_splitOnP] at h
  induction xs generalizing piece with
  | nil =>
    rw [List.splitOnP_nil, List.mem_singleton] at h
    rw [h]
    exact List.not_mem_nil
  | cons y ys ih =>
    rw [List.splitOnP_cons_eq_if_modifyHead] at h
    split at h
    · rcases List.mem_cons.mp h with rfl | h
      · exact List.not_mem_nil
      · exact ih h
    · next hy =>
      obtain ⟨p, ps, hps⟩ := List.exists_cons_of_ne_nil (List.splitOnP_ne_nil (· == x) ys)
      rw [hps] at h ih
      rcases List.mem_cons.mp h with rfl | h
      · have hp := ih List.mem_cons_self
        have hne : x ≠ y := fun heq => hy (by simp [heq])
        simp [hne, hp]
      · exact ih (List.mem_cons_of_mem _ h)

theorem nul_not_mem_cut (c : Context) : ∀ s ∈ c.cut.scopes, '\x00' ∉ s.toList := by
  intro s hs
  obtain ⟨scope, -, hs⟩ := List.mem_flatMap.mp hs
  obtain ⟨piece, hp, rfl⟩ := List.mem_map.mp hs
  rw [String.toList_ofList]
  exact not_mem_of_mem_splitOn hp

theorem flatMap_append_singleton {α : Type} (x : α) {rows : List (List α)} (h : rows ≠ []) :
    rows.flatMap (· ++ [x]) = [x].intercalate rows ++ [x] := by
  induction rows with
  | nil => exact absurd rfl h
  | cons row rows ih =>
    cases rows with
    | nil => simp
    | cons next rows =>
      rw [List.flatMap_cons, ih (List.cons_ne_nil _ _)]
      simp [List.intercalate_cons_cons]

theorem closed_pieces (scope : String) : closed (pieces scope) = scope.toList ++ ['\x00'] := by
  have hrows : closed (pieces scope) = (scope.toList.splitOn '\x00').flatMap (· ++ ['\x00']) := by
    simp [closed, pieces, List.flatMap_map]
  rw [hrows, flatMap_append_singleton _ (List.splitOn_ne_nil _ _), List.intercalate_splitOn]

theorem spelled_cut (c : Context) : c.cut.spelled = c.spelled := by
  have hclosed : closed c.cut.scopes = closed c.scopes := by
    rw [cut, closed, List.flatMap_assoc]
    exact congrArg (fun f => c.scopes.flatMap f) (funext closed_pieces)
  rw [spelled, hclosed]
  rfl

theorem cut_eq_self {c : Context} (h : ∀ s ∈ c.scopes, '\x00' ∉ s.toList) : c.cut = c := by
  have hpieces : ∀ scope ∈ c.scopes, pieces scope = [scope] := by
    intro scope hs
    have hkept : ∀ x ∈ scope.toList, (x == '\x00') = false := by
      intro x hx
      apply beq_false_of_ne
      rintro rfl
      exact h scope hs hx
    rw [pieces, List.splitOn_eq_splitOnP, List.splitOnP_eq_singleton hkept]
    simp
  have hscopes : c.scopes.flatMap pieces = c.scopes := by
    rw [List.flatMap, List.map_congr_left hpieces, ← List.flatMap, List.flatMap_singleton']
  rw [cut, hscopes]

/-! ## One fingerprint -/

/-- Once their scopes are cut at NULs, the contexts are equivalent or the claims of one hold scopes of the
other one. -/
def Confusable (a b : Context) : Prop :=
  a.cut.Equivalent b.cut ∨ Swallows a.cut b.cut ∨ Swallows b.cut a.cut

theorem Equivalent.confusable {a b : Context} (h : a.Equivalent b) : Confusable a b := by
  left
  exact ⟨congrArg (·.flatMap pieces) h.1, h.2⟩

theorem fingerprintInput_eq_iff {a b : Context} :
    a.fingerprintInput = b.fingerprintInput ↔ Confusable a b := by
  rw [fingerprintInput_inj, ← spelled_cut a, ← spelled_cut b,
    spelled_eq_iff (nul_not_mem_cut a) (nul_not_mem_cut b)]
  rfl

structure NulFree (c : Context) : Prop where
  scopes : ∀ s ∈ c.scopes, '\x00' ∉ s.toList
  claims : ∀ claims ∈ c.claims, '\x00' ∉ claims.toList

theorem NulFree.not_swallows {a b : Context} (h : NulFree a) : ¬ Swallows a b := by
  rintro ⟨first, later, -, hc⟩
  apply h.claims _ hc
  simp

theorem Confusable.equivalent {a b : Context} (h : Confusable a b) (ha : NulFree a) (hb : NulFree b) :
    a.Equivalent b := by
  rw [Confusable, cut_eq_self ha.scopes, cut_eq_self hb.scopes] at h
  rcases h with h | h | h
  · exact h
  · exact absurd h ha.not_swallows
  · exact absurd h hb.not_swallows

/-- Contexts share a fingerprint if they are confused or their digests collide.  Equivalent ones always are, and
without NUL no others. -/
theorem fingerprint_eq_iff (a b : Context) :
    (a.fingerprint = b.fingerprint ↔
      Confusable a b ∨ Sha256.Collide a.fingerprintInput b.fingerprintInput) ∧
    (a.Equivalent b → Confusable a b) ∧
    (NulFree a → NulFree b → Confusable a b → a.Equivalent b) := by
  refine ⟨?_, Equivalent.confusable, fun ha hb h => h.equivalent ha hb⟩
  rw [fingerprint_eq_iff_digest, ← fingerprintInput_eq_iff]
  constructor
  · intro h
    by_cases hsame : a.fingerprintInput = b.fingerprintInput
    · exact .inl hsame
    · exact .inr ⟨hsame, h⟩
  · rintro (h | ⟨-, h⟩)
    · rw [h]
    · exact h

theorem fingerprint_eq_iff_joined : NulFree { scopes := ["a", "b"] } ∧ NulFree { scopes := ["ab"] } ∧
    ¬ Confusable { scopes := ["a", "b"] } { scopes := ["ab"] } := by
  have hseveral : NulFree { scopes := ["a", "b"] } := ⟨by decide, nofun⟩
  have hjoined : NulFree { scopes := ["ab"] } := ⟨by decide, nofun⟩
  refine ⟨hseveral, hjoined, fun h => ?_⟩
  have heq := (fingerprint_eq_iff _ _).2.2 hseveral hjoined h
  exact absurd heq (by decide)

/-- One scope with NUL is taken for two, and claims are taken for a scope. -/
theorem not_always_told_apart :
    (¬ Equivalent { scopes := ["a\x00b"] } { scopes := ["a", "b"] } ∧
      fingerprintInput { scopes := ["a\x00b"] } = fingerprintInput { scopes := ["a", "b"] } ∧
      fingerprint { scopes := ["a\x00b"] } = fingerprint { scopes := ["a", "b"] }) ∧
    (¬ Equivalent { scopes := ["\x01x"] } { scopes := [], claims := some "x\x00\x02" } ∧
      fingerprintInput { scopes := ["\x01x"] } =
        fingerprintInput { scopes := [], claims := some "x\x00\x02" } ∧
      fingerprint { scopes := ["\x01x"] } =
        fingerprint { scopes := [], claims := some "x\x00\x02" }) := by
  have hscopes : fingerprintInput { scopes := ["a\x00b"] } =
      fingerprintInput { scopes := ["a", "b"] } := by decide +kernel
  have hclaims : fingerprintInput { scopes := ["\x01x"] } =
      fingerprintInput { scopes := [], claims := some "x\x00\x02" } := by decide +kernel
  refine ⟨⟨by decide, hscopes, ?_⟩, ⟨by decide, hclaims, ?_⟩⟩
  · rw [fingerprint, hscopes, ← fingerprint]
  · rw [fingerprint, hclaims, ← fingerprint]

end Context

end BearerTokens
