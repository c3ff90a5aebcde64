import BearerTokens.Proofs.Cache.Asides
import BearerTokens.Proofs.Signing.Protocol

/-! # A challenge is answered with another token

A responder that forwards claims, or learns scopes, answers a challenge with a context that is not
equivalent to the one of the first attempt.  The cache brings each attempt a token which the credential
gave for the context of that attempt, whatever the other sends make of the stored context in between.
So the two tokens were asked for by different calls or renewals.
-/

namespace BearerTokens.Signing

open Http

variable {Memory : Type} {h : Responder Memory}

/-! ## What a challenge demands -/

inductive BuiltIn : {Memory : Type} → Responder Memory → Prop where
  | claims : BuiltIn claimsResponder
  | scopes : BuiltIn scopeResponder

/-- The context that a challenge demands, after an attempt with the first one. -/
inductive Demands (response : Response) (first : Context) :
    {Memory : Type} → Responder Memory → Context → Prop where
  | claims {claims : String} (hr : response.claims? = some claims) :
      Demands response first claimsResponder (first.withClaims claims)
  | scopes {challenge : Challenge} {next : Context} (hr : bearerChallenge? response = some challenge)
      (hs : next.scopes = ((challengedScope challenge).map fun scope => [scope]).getD first.scopes)
      (hc : next.claims = challenge.claims?.or first.claims)
      (hi : next.correlation = first.correlation) :
      Demands response first scopeResponder next

theorem BuiltIn.before_claims (hb : BuiltIn h) (memory : Memory) (request : Request)
    (context : Context) : (h.before memory request context).claims = context.claims := by
  cases hb with
  | claims => rfl
  | scopes =>
    simp only [scopeResponder]
    split <;> rfl

theorem challengedContext_demands {response : Response} {challenge : Challenge} {first : Context}
    (hr : bearerChallenge? response = some challenge) :
    Demands response first scopeResponder (challengedContext challenge first) := by
  unfold challengedContext
  cases hs : challengedScope challenge <;> cases hc : challenge.claims? <;>
    exact .scopes hr (by simp [hs, Context.withScopes, Context.withClaims])
      (by simp [hc, Context.withScopes, Context.withClaims]) rfl

/-- What the responder gives for a challenge is what the challenge demands, and it is another context. -/
theorem BuiltIn.demands (hb : BuiltIn h) {memory : Memory} {request : Request} {response : Response}
    {first next : Context} (ha : (h.answer memory request response first).2 = some next)
    (hnone : first.claims = none) : Demands response first h next ∧ ¬ next.Equivalent first := by
  cases hb with
  | claims =>
    obtain ⟨claims, hr, rfl⟩ := Option.map_eq_some_iff.mp ha
    refine ⟨.claims hr, fun heq => ?_⟩
    cases hnone.symm.trans heq.2.symm
  | scopes =>
    simp only [scopeResponder] at ha
    split at ha
    next => cases ha
    next challenge hr =>
      split at ha
      next => cases ha
      next hne =>
        cases ha
        exact ⟨challengedContext_demands hr, hne⟩

/-! ## The two attempts -/

structure Presents (cache : Cache.State) (i : SendId) (again : Bool) (request : Request)
    (context : Context) (header : String) (signed : Request) (lines : List Exchange) : Prop where
  attempted : ∃ c, .attempted i again context c ∈ lines ∧ Brought cache context c (.ok header)
  handed : .handed i again signed ∈ lines
  carries : Carries request header signed

section Lines

variable {cache : Cache.State} {i : SendId} {again : Bool} {request signed : Request}
  {context : Context} {header : String} {q : Point} {lines more : List Exchange}

theorem Presents.mono (hp : Presents cache i again request context header signed lines)
    (hl : lines ⊆ more) : Presents cache i again request context header signed more := by
  obtain ⟨⟨c, hc, hb⟩, hh, hcarries⟩ := hp
  exact ⟨⟨c, hl hc, hb⟩, hl hh, hcarries⟩

theorem Signed.presents (hl : Signed cache i again request context lines) :
    ∃ header signed, Presents cache i again request context header signed lines ∧
      ∀ signed', .handed i again signed' ∈ lines → signed' = signed := by
  obtain ⟨hb, ha⟩ := hl
  rw [requestFor_eq] at ha
  exact ⟨_, _, ⟨⟨_, by simp, hb⟩, by simp, carries_of_authorize ha⟩, by simp⟩

theorem Attempt.presents (ha : Attempt cache i again request context q lines)
    (hs : .handed i again signed ∈ lines) :
    ∃ header, Presents cache i again request context header signed lines := by
  cases ha with
  | acquiring | failed | misfit => simp at hs
  | awaiting hl =>
    obtain ⟨header, signed', hp, hone⟩ := hl.presents
    exact ⟨header, hone signed hs ▸ hp⟩
  | lost hl | settled hl =>
    obtain ⟨header, signed', hp, hone⟩ := hl.presents
    obtain rfl := hone signed (by simpa using hs)
    exact ⟨header, hp.mono (List.subset_append_left _ _)⟩

variable {chosen : Context → Prop} {judged : Context → Response → Option Context → Prop}
  {contexts : List Context}

/-- A second request is handed over after a first one, for the context that was given in between. -/
theorem Course.presents (hc : Course cache i request chosen judged contexts q lines)
    (hs : .handed i true signed ∈ lines) :
    ∃ first next response header header' signed', chosen first ∧ judged first response (some next) ∧
      Presents cache i false request first header signed' lines ∧
      Presents cache i true request next header' signed lines := by
  cases hc with
  | starting | refused => cases hs
  | first _ _ ha =>
    cases ha with
    | acquiring | failed | misfit => simp at hs
    | awaiting hl => exact absurd hs (hl.first_only.1 signed)
    | lost hl | settled hl => simp [hl.first_only.1] at hs
  | judging _ _ hl | declined _ _ hl => simp [hl.first_only.1] at hs
  | @second _ _ _ rest _ _ _ hc hl _ hj ha =>
    have hrest : .handed i true signed ∈ rest := by simpa [hl.first_only.1] using hs
    obtain ⟨header, signed', hp, -⟩ := hl.presents
    obtain ⟨header', hp'⟩ := ha.presents hrest
    refine ⟨_, _, _, header, header', signed', hc, hj, hp.mono ?_, hp'.mono ?_⟩
    · exact List.subset_append_of_subset_left _ (List.subset_append_left _ _)
    · exact List.subset_append_right _ _

end Lines

/-! ## Whose tokens they are -/

namespace State

variable {t : Timing} {p : Policy} {s s' x : State Memory} {actions : List Action} {i : SendId}
  {send : Send}

theorem attempt_shared (hs : Cache.Shared t s.cache) (i : SendId) (send : Send) (context : Context)
    (again : Bool) : Cache.Shared t (s.attempt i send context again).cache := by
  have hcall : Cache.Shared t (s.cache.call context .async send.inside send.hasRuntime) :=
    hs.step (a := .call context .async send.inside send.hasRuntime) rfl
  unfold attempt
  cases send.cancelled with
  | false => exact hcall
  | true => exact hcall.step (a := .cancel _) rfl

theorem Moves.shared {a : Action} (hm : Moves h t p s a s') (hs : Cache.Shared t s.cache) :
    Cache.Shared t s'.cache := by
  cases hm with
  | send | walk | decline => exact hs
  | cancel =>
    simp only [cancelSend]
    split
    · exact hs.step (a := .cancel _) rfl
    · exact hs
  | @sign i send => exact attempt_shared (s := { s with memory := _ }) hs i send _ false
  | @answer i send response _ next memory =>
    exact attempt_shared (s := { s with memory, cache := s.cache.report [.answering next] }.record
      (.judged i response (some next))) (hs.report _) i send next true
  | cache hc => exact hs.step hc

theorem run_shared (hrun : s.run? h t p actions = some x) (hs : Cache.Shared t s.cache) :
    Cache.Shared t x.cache :=
  run_induction_on (P := fun _ x => Cache.Shared t x.cache) hrun hs
    fun _ _ _ _ _ hstep hx => (step_moves hstep).shared hx

structure Resigned (h : Responder Memory) (t : Timing) (p : Policy) (s : State Memory)
    (actions : List Action) (x : State Memory) (i : SendId) (send : Send) (first next : Context)
    (response : Response) (header header' : String) (signed signed' : Request) : Prop where
  before : Presents x.cache i false send.request first header signed (x.linesOf i)
  again : Presents x.cache i true send.request next header' signed' (x.linesOf i)
  judged : s.Judged h t p actions i send.request first response (some next)
  demanded : Demands response first h next
  changed : ¬ next.Equivalent first
  issued : ∃ q, x.cache.IssuedBy q first header
  issuedAgain : ∃ q, x.cache.IssuedBy q next header'
  /-- Whoever asked for the one token did not ask for the other. -/
  apart (q q' : Cache.Requester) : x.cache.IssuedBy q first header →
    x.cache.IssuedBy q' next header' → q ≠ q'

/-- Wherever a send is signed again, another token signs it, and it is one for the context that the
challenge demands. -/
theorem resigned {cache : Cache.State} {memory : Memory} {signed' : Request} (hb : BuiltIn h)
    (hr : Cache.Reachable t cache) (hrun : run? h t p { cache, memory } actions = some x)
    (hi : x.sends[i]? = some send) (hs : (true, signed') ∈ x.handed i) :
    ∃ first next response header header' signed, Resigned h t p { cache, memory } actions x i send
      first next response header header' signed signed' := by
  have hgo := run_goes hrun hi
  obtain ⟨first, next, response, header, header', signed, hchosen, hjudged, hp, hp'⟩ :=
    Course.presents hgo (mem_handed.mp hs)
  have hshared := run_shared hrun hr.shared
  have hnone : first.claims = none := by
    obtain ⟨-, z, -, -, hz⟩ := hchosen
    rw [hz, hb.before_claims]
    rfl
  obtain ⟨hdemanded, hchanged⟩ : Demands response first h next ∧ ¬ next.Equivalent first := by
    obtain ⟨-, z, -, -, hz⟩ := hjudged
    exact hb.demands hz hnone
  have hissued : ∀ {context : Context} {header : String} {c : Cache.CallId},
      Brought x.cache context c (.ok header) → ∃ q, x.cache.IssuedBy q context header := by
    rintro _ _ c ⟨call, hc, rfl, hq⟩
    exact hshared.issued hc hq
  obtain ⟨⟨c, -, hbrought⟩, -, -⟩ := id hp
  obtain ⟨⟨c', -, hbrought'⟩, -, -⟩ := id hp'
  refine ⟨first, next, response, header, header', signed, ?_⟩
  exact ⟨hp, hp', hjudged, hdemanded, hchanged, hissued hbrought, hissued hbrought',
    fun q q' => hshared.requesters_ne fun heq => hchanged heq.symm⟩

/-- While one send waits for the responder another one is served the token that was rejected. -/
def rejectedRow : List Action :=
  [.send signedTwice true true, .sign 0, .cache (.decide 0 ⟨0⟩), .cache (.enter 0), .cache (.ask 0),
    .cache (.answer 0 (.ok (.ofText "T" ⟨600000000000⟩))), .cache (.close 0), .submit 0,
    .deliver 0 (.ok { status := 401, headers := [("www-authenticate", "Bearer claims=YQ")] }),
    .send signedTwice true true, .sign 1, .cache (.decide 1 ⟨1⟩), .judge 0,
    .cache (.decide 2 ⟨2⟩), .cache (.enter 2), .cache (.ask 2),
    .cache (.answer 2 (.ok (.ofText "S" ⟨600000000000⟩))), .cache (.close 2), .submit 0]

theorem resigned_rejectedRow : ∃ x send signed',
    run? claimsResponder {} { scopes := ["A"] } { memory := () } rejectedRow = some x ∧
    x.sends[0]? = some send ∧ (true, signed') ∈ x.handed 0 ∧
    (x.handed 0).map (·.2.headers) = [[("accept", "any"), ("authorization", "Bearer T")],
      [("accept", "any"), ("authorization", "Bearer S")]] ∧
    ∃ first next response header header' signed, Resigned claimsResponder {} { scopes := ["A"] }
      { memory := () } rejectedRow x 0 send first next response header header' signed signed' := by
  have hread : (run? claimsResponder {} { scopes := ["A"] } { memory := () } rejectedRow).map
      (fun x => ((x.handed 0).map (·.1), (x.handed 0).map (·.2.headers), (x.sends[0]?).isSome)) =
        some ([false, true], [[("accept", "any"), ("authorization", "Bearer T")],
          [("accept", "any"), ("authorization", "Bearer S")]], true) := by decide +kernel
  obtain ⟨x, hrun, hx⟩ := Option.map_eq_some_iff.mp hread
  obtain ⟨hflags, hheaders, hsome⟩ : (x.handed 0).map (·.1) = [false, true] ∧
      (x.handed 0).map (·.2.headers) = _ ∧ (x.sends[0]?).isSome = true := by simpa using hx
  obtain ⟨send, hi⟩ := Option.isSome_iff_exists.mp hsome
  obtain ⟨⟨again, signed'⟩, hs, rfl⟩ : ∃ entry ∈ x.handed 0, entry.1 = true :=
    List.mem_map.mp (hflags ▸ by simp)
  exact ⟨x, send, signed', hrun, hi, hs, hheaders, resigned .claims .start hrun hi hs⟩

end State

end BearerTokens.Signing
