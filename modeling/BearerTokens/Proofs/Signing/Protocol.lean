import BearerTokens.Proofs.Signing.Course

/-! # What the transport sees of a send

A send hands its request over at most twice, each time with one authorization value and otherwise as
its caller made it.  Whether it does so again rests with the first answer, the responder and the cache;
a request that would not travel over `https` reaches none of them.
-/

namespace BearerTokens.Signing

open Http

variable {Memory : Type}

/-! ## Signed requests -/

def Insecure (request : Request) : Prop :=
  ∀ scheme, request.uri.scheme = some scheme → Text.sameLetters scheme "https" = false

theorem insecure?_eq_none {request : Request} : insecure? request = none ↔ ¬ Insecure request := by
  unfold insecure? Insecure
  cases request.uri.scheme with
  | none => simp
  | some scheme => cases hs : Text.sameLetters scheme "https" <;> simp [hs]

theorem insecure?_eq_some {request : Request} {fault : Fault} (h : insecure? request = some fault) :
    fault = .insecure (request.uri.scheme.getD "") := by
  unfold insecure? at h
  cases hs : request.uri.scheme with
  | none =>
    rw [hs] at h
    cases h
    rfl
  | some scheme =>
    simp only [hs] at h
    split at h <;> cases h
    rfl

/-- The request is the caller's one but for its authorization, which is the header alone. -/
structure Carries (request : Request) (header : String) (signed : Request) : Prop where
  method : signed.method = request.method
  uri : signed.uri = request.uri
  version : signed.version = request.version
  body : signed.body = request.body
  authorization : signed.headers.valuesOf authorizationHeader = [header]
  /-- The other fields are the same ones in the same order. -/
  others : signed.headers.filter (·.1 != authorizationHeader) =
    request.headers.filter (·.1 != authorizationHeader)
  legal : isFieldValue header = true

/-- The copy that is kept for a second attempt is the request itself. -/
theorem requestFor_eq (request : Request) (again : Bool) : requestFor request again = request := by
  cases again <;> rfl

theorem authorize_ok_iff {request signed : Request} {header : String} :
    authorize request header = .ok signed ↔ isFieldValue header = true ∧
      signed = { request with headers := request.headers.replace authorizationHeader header } := by
  unfold authorize
  split
  next hl => simp [hl, eq_comm]
  next hl => simp [hl]

theorem carries_of_authorize {request signed : Request} {header : String}
    (h : authorize request header = .ok signed) : Carries request header signed := by
  obtain ⟨hlegal, rfl⟩ := authorize_ok_iff.mp h
  refine ⟨rfl, rfl, rfl, rfl, Headers.valuesOf_replace .., ?_, hlegal⟩
  simp [Headers.replace, List.filter_append, List.filter_filter]

/-! ## What is read off the history -/

def Exchange.handed? : Exchange → Option (Bool × Request)
  | .handed _ again request => some (again, request)
  | _ => none

def Exchange.delivered? : Exchange → Option (Bool × Delivery)
  | .delivered _ again delivery => some (again, delivery)
  | _ => none

/-- The requests of a send that were handed over, in order; each tells whether it was the second. -/
def State.handed (s : State Memory) (i : SendId) : List (Bool × Request) :=
  (s.linesOf i).filterMap Exchange.handed?

def State.deliveries (s : State Memory) (i : SendId) : List (Bool × Delivery) :=
  (s.linesOf i).filterMap Exchange.delivered?

section Reading

variable {cache : Cache.State} {i : SendId} {again : Bool} {request : Request} {context : Context}
  {q : Point} {lines : List Exchange}

theorem Signed.handed (hl : Signed cache i again request context lines) :
    ∃ signed, lines.filterMap Exchange.handed? = [(again, signed)] ∧
      lines.filterMap Exchange.delivered? = [] := by
  obtain ⟨hb, ha⟩ := hl
  exact ⟨_, rfl, rfl⟩

theorem Signed.attempted (hl : Signed cache i again request context lines) :
    ∃ c, Exchange.attempted i again context c ∈ lines := by
  obtain ⟨hb, ha⟩ := hl
  exact ⟨_, List.mem_cons_self⟩

theorem Signed.not_judged (hl : Signed cache i again request context lines) (response : Response)
    (next : Option Context) : Exchange.judged i response next ∉ lines := by
  obtain ⟨hb, ha⟩ := hl
  simp

/-- A first attempt tells nothing of a second one. -/
theorem Signed.first_only (hl : Signed cache i false request context lines) :
    (∀ signed, Exchange.handed i true signed ∉ lines) ∧
      ∀ context c, Exchange.attempted i true context c ∉ lines := by
  obtain ⟨hb, ha⟩ := hl
  simp

/-- An attempt hands over at most one request, and ends well with the answer to it alone. -/
theorem Attempt.handed (ha : Attempt cache i again request context q lines) :
    (lines.filterMap Exchange.handed? = [] ∧ ∀ response, q ≠ .done (.ok response)) ∨
    ∃ signed, lines.filterMap Exchange.handed? = [(again, signed)] ∧
      ∀ response, q = .done (.ok response) →
        lines.filterMap Exchange.delivered? = [(again, .ok response)] := by
  cases ha with
  | acquiring | failed | misfit => exact .inl ⟨rfl, fun response hq => by cases hq⟩
  | awaiting hl =>
    obtain ⟨signed, hone, -⟩ := hl.handed
    exact .inr ⟨signed, hone, fun response hq => by cases hq⟩
  | lost hl =>
    obtain ⟨signed, hone, -⟩ := hl.handed
    refine .inr ⟨signed, ?_, fun response hq => by cases hq⟩
    rw [List.filterMap_append, hone]
    rfl
  | settled hl =>
    obtain ⟨signed, hone, hnone⟩ := hl.handed
    refine .inr ⟨signed, ?_, fun response hq => ?_⟩
    · rw [List.filterMap_append, hone]
      rfl
    · cases hq
      rw [List.filterMap_append, hnone]
      rfl

theorem Attempt.not_judged (ha : Attempt cache i again request context q lines)
    (response : Response) (next : Option Context) : Exchange.judged i response next ∉ lines := by
  cases ha with
  | acquiring | failed | misfit => simp
  | awaiting hl => exact hl.not_judged response next
  | lost hl | settled hl => simp [hl.not_judged]

variable {chosen : Context → Prop} {judged : Context → Response → Option Context → Prop}
  {contexts : List Context}

theorem Course.handed_flags (hc : Course cache i request chosen judged contexts q lines) :
    (lines.filterMap Exchange.handed?).map (·.1) <+: [false, true] := by
  cases hc with
  | starting | refused => exact List.nil_prefix
  | first _ _ ha =>
    rcases ha.handed with ⟨hnone, -⟩ | ⟨_, hone, -⟩
    · simp [hnone]
    · simp [hone]
  | judging _ _ hl | declined _ _ hl =>
    obtain ⟨_, hone, -⟩ := hl.handed
    simp [List.filterMap_append, List.filterMap_cons, hone, Exchange.handed?]
  | second _ _ hl _ _ ha =>
    obtain ⟨_, hone, -⟩ := hl.handed
    rcases ha.handed with ⟨hnone, -⟩ | ⟨_, htwo, -⟩
    · simp [List.filterMap_append, List.filterMap_cons, hone, hnone, Exchange.handed?]
    · simp [List.filterMap_append, List.filterMap_cons, hone, htwo, Exchange.handed?]

def Conveys (cache : Cache.State) (i : SendId) (request : Request) (lines : List Exchange) : Prop :=
  ∀ again signed, Exchange.handed i again signed ∈ lines →
    ∃ context c header, Exchange.attempted i again context c ∈ lines ∧
      Brought cache context c (.ok header) ∧ Carries request header signed

theorem Conveys.append {lines' : List Exchange} (hl : Conveys cache i request lines)
    (hl' : Conveys cache i request lines') : Conveys cache i request (lines ++ lines') := by
  intro again signed hs
  rcases List.mem_append.mp hs with hs | hs
  · obtain ⟨context, c, header, hc, h⟩ := hl again signed hs
    exact ⟨context, c, header, List.mem_append_left _ hc, h⟩
  · obtain ⟨context, c, header, hc, h⟩ := hl' again signed hs
    exact ⟨context, c, header, List.mem_append_right _ hc, h⟩

theorem Conveys.silent (hl : ∀ again signed, Exchange.handed i again signed ∉ lines) :
    Conveys cache i request lines :=
  fun again signed hs => absurd hs (hl again signed)

theorem Signed.conveys (hl : Signed cache i again request context lines) :
    Conveys cache i request lines := by
  obtain ⟨hb, ha⟩ := hl
  rw [requestFor_eq] at ha
  intro again' signed' hs
  obtain ⟨rfl, rfl⟩ : again' = again ∧ signed' = _ := by simpa using hs
  exact ⟨_, _, _, by simp, hb, carries_of_authorize ha⟩

theorem Attempt.conveys (ha : Attempt cache i again request context q lines) :
    Conveys cache i request lines := by
  cases ha with
  | acquiring | failed | misfit => exact .silent (by simp)
  | awaiting hl => exact hl.conveys
  | lost hl | settled hl => exact hl.conveys.append (.silent (by simp))

theorem Course.conveys (hc : Course cache i request chosen judged contexts q lines) :
    Conveys cache i request lines := by
  cases hc with
  | starting | refused => exact .silent (by simp)
  | first _ _ ha => exact ha.conveys
  | judging _ _ hl | declined _ _ hl => exact hl.conveys.append (.silent (by simp))
  | second _ _ hl _ _ ha => exact (hl.conveys.append (.silent (by simp))).append ha.conveys

/-- A response is returned right after it was delivered in answer to the last request. -/
theorem Course.answered {response : Response}
    (hc : Course cache i request chosen judged contexts (.done (.ok response)) lines) :
    ∃ again, (lines.filterMap Exchange.delivered?).getLast? = some (again, .ok response) ∧
      (lines.filterMap Exchange.handed?).map (·.1) =
        (lines.filterMap Exchange.delivered?).map (·.1) := by
  cases hc with
  | first _ _ ha =>
    rcases ha.handed with ⟨-, hnot⟩ | ⟨_, hone, hd⟩
    · exact absurd rfl (hnot response)
    · exact ⟨false, by simp [hone, hd response rfl]⟩
  | declined _ _ hl =>
    obtain ⟨_, hone, hnone⟩ := hl.handed
    exact ⟨false, by simp [List.filterMap_append, List.filterMap_cons, hone, hnone,
      Exchange.handed?, Exchange.delivered?]⟩
  | second _ _ hl _ _ ha =>
    obtain ⟨_, hone, hnone⟩ := hl.handed
    rcases ha.handed with ⟨-, hnot⟩ | ⟨_, htwo, hd⟩
    · exact absurd rfl (hnot response)
    · exact ⟨true, by simp [List.filterMap_append, List.filterMap_cons, hone, hnone, htwo,
        hd response rfl, Exchange.handed?, Exchange.delivered?]⟩

theorem Course.judged_line {response : Response} {next : Option Context}
    (hc : Course cache i request chosen judged contexts q lines)
    (hj : Exchange.judged i response next ∈ lines) :
    ∃ context c, Exchange.attempted i false context c ∈ lines ∧ chosen context ∧
      judged context response next := by
  cases hc with
  | starting | refused => cases hj
  | first _ _ ha => exact absurd hj (ha.not_judged _ _)
  | judging _ _ hl => simp [hl.not_judged] at hj
  | declined _ hc hl _ hjudged =>
    obtain ⟨c, hfirst⟩ := hl.attempted
    obtain ⟨rfl, rfl⟩ : response = _ ∧ next = none := by simpa [hl.not_judged] using hj
    exact ⟨_, c, List.mem_append_left _ hfirst, hc, hjudged⟩
  | second _ hc hl _ hjudged ha =>
    obtain ⟨c, hfirst⟩ := hl.attempted
    obtain ⟨rfl, rfl⟩ : response = _ ∧ next = some _ := by
      simpa [hl.not_judged, ha.not_judged] using hj
    exact ⟨_, c, List.mem_append_left _ (List.mem_append_left _ hfirst), hc, hjudged⟩

structure Retried (cache : Cache.State) (i : SendId) (request : Request) (q : Point)
    (lines : List Exchange) (response : Response) (next : Context) (rest : List Exchange) : Prop where
  first : (lines.filterMap Exchange.delivered?).head? = some (false, .ok response)
  challenge : response.mayChallenge = true
  judged : .judged i response (some next) ∈ lines
  attempt : Attempt cache i true request next q rest
  subset : rest ⊆ lines
  handed (signed : Request) : .handed i true signed ∈ lines → .handed i true signed ∈ rest
  attempted (context : Context) (c : Cache.CallId) :
    .attempted i true context c ∈ lines → .attempted i true context c ∈ rest

/-- Either the way has led to a second attempt, or nothing of one is told. -/
theorem Course.retried_or (hc : Course cache i request chosen judged contexts q lines) :
    (∃ response next rest, Retried cache i request q lines response next rest) ∨
    (∀ response next, Exchange.judged i response (some next) ∉ lines) ∧
      (∀ signed, Exchange.handed i true signed ∉ lines) ∧ ∀ c, q ≠ .acquiring true c := by
  cases hc with
  | starting | refused => exact .inr ⟨by simp, by simp, by simp⟩
  | first _ _ ha =>
    refine .inr ⟨fun response next => ha.not_judged response _, ?_, ?_⟩
    · cases ha with
      | acquiring | failed | misfit => simp
      | awaiting hl => exact hl.first_only.1
      | lost hl | settled hl => simp [hl.first_only.1]
    · cases ha <;> simp
  | judging _ _ hl | declined _ _ hl =>
    exact .inr ⟨by simp [hl.not_judged], by simp [hl.first_only.1], by simp⟩
  | second _ _ hl hm _ ha =>
    obtain ⟨hhanded, hattempted⟩ := hl.first_only
    obtain ⟨_, -, hnone⟩ := hl.handed
    refine .inl ⟨_, _, _, ?_, hm, by simp, ha, List.subset_append_right .., ?_, ?_⟩
    · simp [List.filterMap_append, List.filterMap_cons, hnone, Exchange.delivered?]
    · exact fun signed hs => by simpa [hhanded] using hs
    · exact fun context c hs => by simpa [hattempted] using hs

theorem Attempt.grants {signed : Request} (ha : Attempt cache i again request context q lines)
    (hs : Exchange.handed i again signed ∈ lines) :
    ∃ c header, Exchange.attempted i again context c ∈ lines ∧
      Brought cache context c (.ok header) ∧ isFieldValue header = true := by
  cases ha with
  | acquiring | failed | misfit => simp at hs
  | awaiting hl | lost hl | settled hl =>
    obtain ⟨hb, ha⟩ := hl
    exact ⟨_, _, by simp, hb, (authorize_ok_iff.mp ha).1⟩

/-- Where the call of an attempt has returned a header that can be sent, the request was handed over or
is about to be. -/
theorem Attempt.granted {context' : Context} {c : Cache.CallId} {header : String}
    (ha : Attempt cache i again request context q lines)
    (hc : Exchange.attempted i again context' c ∈ lines)
    (hb : Brought cache context' c (.ok header)) (hlegal : isFieldValue header = true) :
    (∃ signed, Exchange.handed i again signed ∈ lines) ∨ q = .acquiring again c := by
  cases ha with
  | acquiring =>
    obtain ⟨rfl, rfl⟩ : context' = _ ∧ c = _ := by simpa using hc
    exact .inr rfl
  | failed hb' =>
    obtain ⟨rfl, rfl⟩ : context' = _ ∧ c = _ := by simpa using hc
    cases hb.unique hb'
  | misfit hb' ha =>
    obtain ⟨rfl, rfl⟩ : context' = _ ∧ c = _ := by simpa using hc
    cases hb.unique hb'
    cases (authorize_ok_iff.mpr ⟨hlegal, rfl⟩).symm.trans ha
  | awaiting hl | lost hl | settled hl =>
    obtain ⟨hb, ha⟩ := hl
    exact .inl ⟨_, List.mem_cons_of_mem _ List.mem_cons_self⟩

end Reading

/-! ## The protocol -/

def Action.Of (i : SendId) : Action → Bool
  | .cancel j | .sign j | .submit j | .deliver j _ | .judge j => j == i
  | _ => false

namespace State

/-- What a second attempt takes: the first answer is a challenge, the responder gave a context for it,
and a call for that context returned a header that can be sent. -/
structure Grants (x : State Memory) (i : SendId) (response : Response) (next : Context)
    (c : Cache.CallId) (header : String) : Prop where
  first : (x.deliveries i).head? = some (false, .ok response)
  status : response.status = unauthorized
  challenge : response.headers.has challengeHeader = true
  judged : .judged i response (some next) ∈ x.linesOf i
  attempted : .attempted i true next c ∈ x.linesOf i
  brought : Brought x.cache next c (.ok header)
  legal : isFieldValue header = true

/-- The next thing that the send can do is to hand its request over again. -/
def AboutToResend (h : Responder Memory) (t : Timing) (p : Policy) (x : State Memory)
    (i : SendId) : Prop :=
  ∃ y signed, x.step h t p (.submit i) = some y ∧ y.handed i = x.handed i ++ [(true, signed)]

structure Protocol (h : Responder Memory) (t : Timing) (p : Policy) (s : State Memory)
    (actions : List Action) (x : State Memory) (i : SendId) (send : Send) : Prop where
  /-- The request is the one that its caller gave. -/
  asked : s.When h t p actions (.send send.request send.inside send.hasRuntime) fun x => x.sends.length = i
  /-- At most two requests are handed over, and at most one of them as the second. -/
  flags : (x.handed i).map (·.1) <+: [false, true]
  /-- A request that is not secure leads to no attempt, no request and no question. -/
  insecure : Insecure send.request → x.linesOf i = [] ∧ (send.point = .starting ∨
    send.point = .done (.error (.insecure (send.request.uri.scheme.getD ""))))
  /-- Nothing that its send does touches the cache or the responder. -/
  untouched (a : Action) (y : State Memory) : Insecure send.request → a.Of i = true →
    x.step h t p a = some y → y.cache = x.cache ∧ y.memory = x.memory
  carries (again : Bool) (signed : Request) : (again, signed) ∈ x.handed i →
    ∃ context c header, .attempted i again context c ∈ x.linesOf i ∧
      Brought x.cache context c (.ok header) ∧ Carries send.request header signed
  /-- What is told of a judgement is what the responder said of the first attempt. -/
  judged (response : Response) (next : Option Context) : .judged i response next ∈ x.linesOf i →
    ∃ context c, .attempted i false context c ∈ x.linesOf i ∧
      s.Judged h t p actions i send.request context response next
  again : ((∃ signed, (true, signed) ∈ x.handed i) ∨ x.AboutToResend h t p i) ↔
    ∃ response next c header, x.Grants i response next c header
  ended (answer : Except Fault Response) : send.point = .done answer →
    ((∃ signed, (true, signed) ∈ x.handed i) ↔
      ∃ response next c header, x.Grants i response next c header)
  /-- What is returned is the answer to the last request, as it was delivered. -/
  returned (response : Response) : send.point = .done (.ok response) →
    ∃ again, (x.deliveries i).getLast? = some (again, .ok response) ∧
      (x.handed i).map (·.1) = (x.deliveries i).map (·.1)

variable {h : Responder Memory} {t : Timing} {p : Policy} {s x y : State Memory}
  {actions : List Action} {i : SendId} {send : Send}

theorem mem_handed {again : Bool} {signed : Request} :
    (again, signed) ∈ x.handed i ↔ Exchange.handed i again signed ∈ x.linesOf i := by
  constructor
  · intro hs
    obtain ⟨e, he, hread⟩ := List.mem_filterMap.mp hs
    cases e with
    | handed j again' signed' =>
      cases hread
      obtain rfl : j = i := (mem_linesOf.mp he).2
      exact he
    | _ => cases hread
  · exact fun hs => List.mem_filterMap.mpr ⟨_, hs, rfl⟩

theorem Goes.insecure (hgo : s.Goes h t p actions x i send) (hs : Insecure send.request) :
    x.linesOf i = [] ∧ (send.point = .starting ∨
      send.point = .done (.error (.insecure (send.request.uri.scheme.getD "")))) := by
  have hnot : insecure? send.request ≠ none := fun hn => insecure?_eq_none.mp hn hs
  unfold Goes at hgo
  generalize hq : send.point = q at hgo
  generalize hcs : send.contexts = contexts at hgo
  generalize hls : x.linesOf i = lines at hgo
  cases hgo with
  | starting => exact ⟨rfl, .inl rfl⟩
  | refused hf => exact ⟨rfl, .inr (by rw [insecure?_eq_some hf])⟩
  | first hn | judging hn | declined hn | second hn => exact absurd hn hnot

/-- A send that has not asked the cache changes neither the cache nor the memory unless it begins. -/
theorem Moves.untouched {a : Action} (hm : Moves h t p x a y) (hi : x.sends[i]? = some send)
    (ha : a.Of i = true) (hs : Insecure send.request)
    (hq : send.point = .starting ∨ ∃ answer, send.point = .done answer) :
    y.cache = x.cache ∧ y.memory = x.memory := by
  have hid : ∀ {j}, (j == i) = true → j = i := fun h => by simpa using h
  cases hm with
  | send | cache => cases ha
  | walk => exact ⟨rfl, rfl⟩
  | @cancel j =>
    obtain rfl := hid ha
    obtain ⟨request, contexts, cancelled, point⟩ := send
    rcases hq with hq | ⟨answer, hq⟩ <;> cases hq <;> simp [cancelSend, hi]
  | sign hi' _ hsecure =>
    obtain rfl := hid ha
    cases hi.symm.trans hi'
    exact absurd hs (insecure?_eq_none.mp hsecure)
  | decline hi' hp | answer hi' hp =>
    obtain rfl := hid ha
    cases hi.symm.trans hi'
    rcases hq with hq | ⟨answer, hq⟩ <;> cases hp.symm.trans hq

theorem AboutToResend.acquiring (ha : x.AboutToResend h t p i) (hi : x.sends[i]? = some send) :
    ∃ c call header, send.point = .acquiring true c ∧ x.cache.calls[c]? = some call ∧
      call.point = .done (.returned (.ok header)) ∧ isFieldValue header = true := by
  obtain ⟨y, signed, hstep, hhanded⟩ := ha
  cases step_moves hstep with
  | @walk _ j before q lines hi' hw =>
    have hadded : ((x.note lines).move j q).handed j =
        x.handed j ++ lines.filterMap Exchange.handed? := by
      rw [handed, linesOf_own (s := x) rfl hw.id_eq, List.filterMap_append]
      rfl
    cases hw with
    | @submit again c call header _ hp hc hq ha =>
      cases hi.symm.trans hi'
      obtain ⟨rfl, -⟩ : again = true ∧ _ := by
        simpa [List.filterMap_cons, Exchange.handed?] using hadded.symm.trans hhanded
      exact ⟨c, call, header, hp, hc, hq, (authorize_ok_iff.mp ha).1⟩
    | misfit | fail => simp [hadded] at hhanded

theorem aboutToResend {c : Cache.CallId} {call : Cache.Call} {header : String}
    (hi : x.sends[i]? = some send) (hp : send.point = .acquiring true c)
    (hc : x.cache.calls[c]? = some call) (hq : call.point = .done (.returned (.ok header)))
    (hl : isFieldValue header = true) : x.AboutToResend h t p i := by
  obtain ⟨signed, ha⟩ : ∃ signed, authorize (requestFor send.request true) header = .ok signed :=
    ⟨_, authorize_ok_iff.mpr ⟨hl, rfl⟩⟩
  refine ⟨_, signed, step_submit hi hp hc hq ha, ?_⟩
  rw [handed, linesOf_own (s := x) (i := i) rfl (by simp [Exchange.id]), List.filterMap_append]
  rfl

theorem grants_of_retried {rest : List Exchange} {response : Response} {next : Context}
    {c : Cache.CallId} {header : String} {request : Request} {q : Point}
    (hr : Retried x.cache i request q (x.linesOf i) response next rest)
    (hc : .attempted i true next c ∈ rest) (hb : Brought x.cache next c (.ok header))
    (hlegal : isFieldValue header = true) : x.Grants i response next c header := by
  obtain ⟨hstatus, hchallenge⟩ : response.status = unauthorized ∧
      response.headers.has challengeHeader = true := by
    simpa [Response.mayChallenge] using hr.challenge
  exact ⟨hr.first, hstatus, hchallenge, hr.judged, hr.subset hc, hb, hlegal⟩

/-- A second request is handed over, or about to be, just where everything that it takes is there. -/
theorem Goes.again (hgo : s.Goes h t p actions x i send) (hi : x.sends[i]? = some send) :
    ((∃ signed, (true, signed) ∈ x.handed i) ∨ x.AboutToResend h t p i) ↔
      ∃ response next c header, x.Grants i response next c header := by
  rcases Course.retried_or hgo with ⟨response, next, rest, hr⟩ | ⟨hjudged, hhanded, hacquiring⟩
  · constructor
    · -- its request is handed over already, or the call of the second attempt has just returned
      rintro (⟨signed, hs⟩ | habout)
      · obtain ⟨c, header, hc, hb, hlegal⟩ := hr.attempt.grants (hr.handed signed (mem_handed.mp hs))
        exact ⟨response, next, c, header, grants_of_retried hr hc hb hlegal⟩
      · obtain ⟨c, call, header, hp, hc, hq, hlegal⟩ := habout.acquiring hi
        have ha := hr.attempt
        rw [hp] at ha
        cases ha with
        | acquiring hc' hx =>
          cases hc.symm.trans hc'
          exact ⟨response, next, c, header, grants_of_retried hr (by simp) ⟨call, hc, hx, hq⟩ hlegal⟩
    · rintro ⟨_, _, c, header, hg⟩
      have hc := hr.attempted _ c hg.attempted
      rcases hr.attempt.granted hc hg.brought hg.legal with ⟨signed, hs⟩ | hp
      · exact .inl ⟨signed, mem_handed.mpr (hr.subset hs)⟩
      · obtain ⟨call, hcall, -, hq⟩ := hg.brought
        exact .inr (aboutToResend hi hp hcall hq hg.legal)
  · refine iff_of_false ?_ ?_
    · rintro (⟨signed, hs⟩ | habout)
      · exact hhanded signed (mem_handed.mp hs)
      · obtain ⟨c, -, -, hp, -⟩ := habout.acquiring hi
        exact hacquiring c hp
    · rintro ⟨response, next, c, header, hg⟩
      exact hjudged response next hg.judged

/-- Every send of a policy keeps to the protocol, whatever the cache, the responder, the transport and
the callers do. -/
theorem protocol {cache : Cache.State} {memory : Memory}
    (hrun : run? h t p { cache, memory } actions = some x) (hi : x.sends[i]? = some send) :
    Protocol h t p { cache, memory } actions x i send := by
  have hgo := run_goes hrun hi
  have hagain := hgo.again hi
  refine ⟨run_sent hrun hi, Course.handed_flags hgo, fun hs => hgo.insecure hs, ?_, ?_, ?_, hagain, ?_, ?_⟩
  · intro a y hs ha hstep
    refine (step_moves hstep).untouched hi ha hs ?_
    exact (hgo.insecure hs).2.imp id fun hp => ⟨_, hp⟩
  · exact fun again signed hs => Course.conveys hgo again signed (mem_handed.mp hs)
  · intro response next hj
    obtain ⟨context, c, hc, -, hjudged⟩ := Course.judged_line hgo hj
    exact ⟨context, c, hc, hjudged⟩
  · intro answer hp
    rw [← hagain, or_iff_left]
    intro habout
    -- a send that has ended is not acquiring
    obtain ⟨c, call, header, hq, -⟩ := habout.acquiring hi
    cases hp.symm.trans hq
  · intro response hp
    unfold Goes at hgo
    rw [hp] at hgo
    exact hgo.answered

def stubbornResponder : Responder Unit where
  before _ _ context := context
  answer _ _ _ context := ((), some (context.withClaims "A"))

def signedTwice : Request :=
  { uri := { scheme := some "https" }, headers := [("authorization", "own"), ("accept", "any")] }

def challengedRow : List Action :=
  [.cache (.decide 0 ⟨0⟩), .cache (.enter 0), .cache (.ask 0),
    .cache (.answer 0 (.ok (.ofText "T" ⟨600000000000⟩))), .cache (.close 0), .submit 0,
    .deliver 0 (.ok { status := 401, headers := [("www-authenticate", "Bearer")] }), .judge 0,
    .cache (.decide 1 ⟨1⟩), .cache (.enter 1), .cache (.ask 1),
    .cache (.answer 1 (.ok (.ofText "S" ⟨600000000000⟩))), .cache (.close 1), .submit 0,
    .deliver 0 (.ok {})]

theorem protocol_challengedRow : ∃ x send,
    run? stubbornResponder {} { scopes := [] } { memory := () }
      (.send signedTwice true true :: .sign 0 :: challengedRow) = some x ∧
    x.sends[0]? = some send ∧ send.point = .done (.ok {}) ∧
    Protocol stubbornResponder {} { scopes := [] } { memory := () }
      (.send signedTwice true true :: .sign 0 :: challengedRow) x 0 send ∧
    (x.handed 0).map (·.2.headers) = [[("accept", "any"), ("authorization", "Bearer T")],
      [("accept", "any"), ("authorization", "Bearer S")]] := by
  have hsecure : insecure? signedTwice = none := by
    simp [insecure?, signedTwice, Text.sameLetters]
  let start : Send := { request := signedTwice, inside := true, hasRuntime := true }
  let begun : State Unit := { memory := (), sends := [start] }
  have hrun : run? stubbornResponder {} { scopes := [] } { memory := () }
      (.send signedTwice true true :: .sign 0 :: challengedRow) =
        (begun.attempt 0 start {} false).run? stubbornResponder {} { scopes := [] } challengedRow := by
    have hsign : begun.step stubbornResponder {} { scopes := [] } (.sign 0) =
        some (begun.attempt 0 start {} false) := step_sign rfl rfl hsecure
    rw [run?_cons, step, Option.bind_some, run?_cons]
    refine (congrArg (Option.bind · _) hsign).trans ?_
    rw [Option.bind_some]
  obtain ⟨x, send, hx, hi, hp, hh⟩ : ∃ x send,
      (begun.attempt 0 start {} false).run? stubbornResponder {} { scopes := [] } challengedRow =
        some x ∧
      x.sends[0]? = some send ∧ send.point = .done (.ok {}) ∧
      (x.handed 0).map (·.2.headers) = [[("accept", "any"), ("authorization", "Bearer T")],
        [("accept", "any"), ("authorization", "Bearer S")]] := ⟨_, _, rfl, rfl, rfl, rfl⟩
  rw [← hrun] at hx
  exact ⟨x, send, hx, hi, hp, protocol hx hi, hh⟩

end State

end BearerTokens.Signing
