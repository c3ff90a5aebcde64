import BearerTokens.Proofs.Challenge.Claims
import BearerTokens.Proofs.Signing.Lessons

/-! # One answer settles a challenge

The responder that learns scopes puts what the first Bearer challenge of a response advertises in the place
of what was asked for before.  Asked about the same response once more, after an attempt for the context that
it gave, it has nothing left to put in: a second answer would be the context that was rejected.
-/

namespace BearerTokens.Signing

open Http

/-- The first Bearer challenge that the readable challenge headers of a 401 response hold. -/
inductive FirstBearer (response : Response) : Challenge → Prop where
  | intro {before after : List Challenge} {challenge : Challenge} (hs : response.status = 401)
      (hc : (response.headers.readable "www-authenticate").flatMap Challenge.read =
        before ++ challenge :: after)
      (hb : challenge.hasScheme "Bearer" = true)
      (hn : ∀ c ∈ before, c.hasScheme "Bearer" = false) : FirstBearer response challenge

inductive AdvertisesClaims (response : Response) : String → Prop where
  | intro {challenge : Challenge} {value claims : String} (hb : FirstBearer response challenge)
      (hp : Challenge.FirstParam "claims" challenge.params value) (hne : claims ≠ "")
      (hs : Challenge.Spells claims (Text.trimBoth Text.isBlank value.toList)) :
      AdvertisesClaims response claims

/-- The second context asks for what the response advertises, and for all else as the first one does. -/
structure Adopts (response : Response) (context next : Context) : Prop where
  scopes : (∃ scope, Advertises response scope ∧ next.scopes = [scope]) ∨
    (∀ scope, ¬ Advertises response scope) ∧ next.scopes = context.scopes
  claims : (∃ claims, AdvertisesClaims response claims ∧ next.claims = some claims) ∨
    (∀ claims, ¬ AdvertisesClaims response claims) ∧ next.claims = context.claims
  correlation : next.correlation = context.correlation

variable {response : Response} {context next later : Context} {challenge : Challenge}

/-! ## What the first Bearer challenge says -/

theorem bearerChallenge?_eq_some_iff : bearerChallenge? response = some challenge ↔
    FirstBearer response challenge := by
  rw [bearerChallenge?, List.find?_eq_some_iff_append, Response.challenges, Response.challengeTexts]
  constructor
  · rintro ⟨hb, before, after, hc, hn⟩
    split at hc
    next hs => exact .intro hs hc hb (by simpa using hn)
    next => simp at hc
  · rintro ⟨hs, hc, hb, hn⟩
    rw [if_pos hs]
    exact ⟨hb, _, _, hc, by simpa using hn⟩

theorem FirstBearer.unique {other : Challenge} (h : FirstBearer response challenge)
    (h' : FirstBearer response other) : other = challenge := by
  rw [← bearerChallenge?_eq_some_iff] at h h'
  exact Option.some.inj (h'.symm.trans h)

theorem FirstBearer.advertises_iff (h : FirstBearer response challenge) (scope : String) :
    Advertises response scope ↔ challengedScope challenge = some scope := by
  rw [Signing.advertises_iff, advertised?, bearerChallenge?_eq_some_iff.mpr h, Option.bind_some]

theorem FirstBearer.advertisesClaims_iff (h : FirstBearer response challenge) (claims : String) :
    AdvertisesClaims response claims ↔ challenge.claims? = some claims := by
  rw [Challenge.claims?, Option.bind_eq_some_iff]
  constructor
  · rintro ⟨hb, hp, hne, hs⟩
    obtain rfl := h.unique hb
    exact ⟨_, Challenge.param?_eq_some_iff.mpr hp, Challenge.decodeClaims_eq_some_iff.mpr ⟨hne, hs⟩⟩
  · rintro ⟨value, hp, hc⟩
    obtain ⟨hne, hs⟩ := Challenge.decodeClaims_eq_some_iff.mp hc
    exact .intro h (Challenge.param?_eq_some_iff.mp hp) hne hs

/-! ## Contexts that adopt it -/

theorem FirstBearer.adopts (h : FirstBearer response challenge) (context : Context) :
    Adopts response context (challengedContext challenge context) := by
  unfold challengedContext
  constructor
  · cases hs : challengedScope challenge with
    | some scope =>
      left
      refine ⟨scope, (h.advertises_iff scope).mpr hs, ?_⟩
      cases challenge.claims? <;> rfl
    | none =>
      right
      refine ⟨fun scope ha => ?_, ?_⟩
      · rw [h.advertises_iff, hs] at ha
        cases ha
      · cases challenge.claims? <;> rfl
  · cases hc : challenge.claims? with
    | some claims => exact .inl ⟨claims, (h.advertisesClaims_iff claims).mpr hc, rfl⟩
    | none =>
      right
      refine ⟨fun claims ha => ?_, ?_⟩
      · rw [h.advertisesClaims_iff, hc] at ha
        cases ha
      · cases challengedScope challenge <;> rfl
  · cases challengedScope challenge <;> cases challenge.claims? <;> rfl

theorem Advertises.unique {scope other : String} (h : Advertises response scope)
    (h' : Advertises response other) : other = scope := by
  rw [advertises_iff] at h h'
  exact Option.some.inj (h'.symm.trans h)

theorem AdvertisesClaims.unique {claims other : String} (h : AdvertisesClaims response claims)
    (h' : AdvertisesClaims response other) : other = claims := by
  obtain ⟨hb, -, -, -⟩ := id h
  rw [hb.advertisesClaims_iff] at h h'
  exact Option.some.inj (h'.symm.trans h)

/-- What has been adopted is not adopted again. -/
theorem Adopts.again (h : Adopts response context next) (h' : Adopts response next later) :
    later.Equivalent next := by
  constructor
  · rcases h'.scopes with ⟨scope, ha, hs⟩ | ⟨-, hs⟩
    · rcases h.scopes with ⟨scope', ha', hs'⟩ | ⟨hn, -⟩
      · rw [hs, hs', ha'.unique ha]
      · exact absurd ha (hn scope)
    · exact hs
  · rcases h'.claims with ⟨claims, ha, hc⟩ | ⟨-, hc⟩
    · rcases h.claims with ⟨claims', ha', hc'⟩ | ⟨hn, -⟩
      · rw [hc, hc', ha'.unique ha]
      · exact absurd ha (hn claims)
    · exact hc

theorem Adopts.equivalent_iff (h : Adopts response context next) : next.Equivalent context ↔
    (∀ scope, Advertises response scope → context.scopes = [scope]) ∧
      ∀ claims, AdvertisesClaims response claims → context.claims = some claims := by
  constructor
  · rintro ⟨hs, hc⟩
    constructor
    · intro scope ha
      rcases h.scopes with ⟨scope', ha', hs'⟩ | ⟨hn, -⟩
      · rw [← hs, hs', ha.unique ha']
      · exact absurd ha (hn scope)
    · intro claims ha
      rcases h.claims with ⟨claims', ha', hc'⟩ | ⟨hn, -⟩
      · rw [← hc, hc', ha.unique ha']
      · exact absurd ha (hn claims)
  · rintro ⟨hs, hc⟩
    constructor
    · rcases h.scopes with ⟨scope, ha, hs'⟩ | ⟨-, hs'⟩
      · rw [hs', hs scope ha]
      · exact hs'
    · rcases h.claims with ⟨claims, ha, hc'⟩ | ⟨-, hc'⟩
      · rw [hc', hc claims ha]
      · exact hc'

/-! ## The answer -/

theorem answer_eq_some_iff {learned : Learned} {request : Request} :
    (scopeResponder.answer learned request response context).2 = some next ↔
      ∃ challenge, FirstBearer response challenge ∧ next = challengedContext challenge context ∧
        ¬ next.Equivalent context := by
  simp only [scopeResponder, ← bearerChallenge?_eq_some_iff]
  cases bearerChallenge? response with
  | none => simp
  | some challenge => grind

theorem answer_eq_none_iff {learned : Learned} {request : Request} :
    (scopeResponder.answer learned request response context).2 = none ↔
      ∀ challenge, FirstBearer response challenge →
        (challengedContext challenge context).Equivalent context := by
  rw [Option.eq_none_iff_forall_ne_some]
  constructor
  · intro h challenge hb
    by_contra hne
    exact h _ (answer_eq_some_iff.mpr ⟨challenge, hb, rfl, hne⟩)
  · rintro h next hnext
    obtain ⟨challenge, hb, rfl, hne⟩ := answer_eq_some_iff.mp hnext
    exact hne (h challenge hb)

/-- A context that answers a challenge adopts what it advertises and is itself an answer to nothing more.  There
is no answer where nothing is advertised, or nothing that the context does not ask for. -/
theorem scopeResponder_settles (learned : Learned) (request : Request) (response : Response)
    (context : Context) :
    (∀ next, (scopeResponder.answer learned request response context).2 = some next →
      (∃ challenge, FirstBearer response challenge) ∧ Adopts response context next ∧
        ¬ next.Equivalent context ∧
        ∀ learned', (scopeResponder.answer learned' request response next).2 = none) ∧
    ((scopeResponder.answer learned request response context).2 = none ↔
      (¬ ∃ challenge, FirstBearer response challenge) ∨
        (∀ scope, Advertises response scope → context.scopes = [scope]) ∧
          ∀ claims, AdvertisesClaims response claims → context.claims = some claims) := by
  constructor
  · intro next hnext
    obtain ⟨challenge, hb, rfl, hne⟩ := answer_eq_some_iff.mp hnext
    refine ⟨⟨challenge, hb⟩, hb.adopts context, hne, fun learned' => ?_⟩
    rw [answer_eq_none_iff]
    intro other hother
    exact (hb.adopts context).again (hother.adopts _)
  · rw [answer_eq_none_iff]
    constructor
    · intro h
      by_cases hb : ∃ challenge, FirstBearer response challenge
      · obtain ⟨challenge, hb⟩ := hb
        exact .inr ((hb.adopts context).equivalent_iff.mp (h challenge hb))
      · exact .inl hb
    · rintro (hn | hsame) challenge hb
      · exact absurd ⟨challenge, hb⟩ hn
      · exact (hb.adopts context).equivalent_iff.mpr hsame

def vaultAnswer : Response where
  status := 401
  headers := [("www-authenticate", "Negotiate YQ=="),
    ("www-authenticate", "bearer resource=\"https://vault.example//\", claims=YQ")]

theorem scopeResponder_settles_vault :
    ∃ next : Context, next.scopes = ["https://vault.example/.default"] ∧ next.claims = some "a" ∧
      (scopeResponder.answer [] { uri := { authority := some "vault.example" } } vaultAnswer
        { scopes := ["A"], correlation := some "r" }).2 = some next ∧
      Adopts vaultAnswer { scopes := ["A"], correlation := some "r" } next ∧
      ¬ next.Equivalent { scopes := ["A"], correlation := some "r" } ∧
      ∀ learned', (scopeResponder.answer learned' { uri := { authority := some "vault.example" } }
        vaultAnswer next).2 = none := by
  let next : Context := ⟨["https://vault.example/.default"], some "a", some "r"⟩
  have hnext : (scopeResponder.answer [] { uri := { authority := some "vault.example" } } vaultAnswer
      { scopes := ["A"], correlation := some "r" }).2 = some next := by decide +kernel
  obtain ⟨-, hadopts, hne, hagain⟩ := (scopeResponder_settles _ _ _ _).1 next hnext
  exact ⟨next, rfl, rfl, hnext, hadopts, hne, hagain⟩

end BearerTokens.Signing
