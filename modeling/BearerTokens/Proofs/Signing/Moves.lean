import BearerTokens.Signing.Send

/-! # What one action of a policy can do

A send goes from one point of its way to the next by itself and adds lines to the history, or it begins
an attempt, which is a new call of the cache.  The responder is asked where an attempt begins or is
declined, and nowhere else.
-/

namespace BearerTokens.Signing

open Http

variable {Memory : Type}

inductive Send.Walks (cache : Cache.State) (i : SendId) (send : Send) :
    Action → Point → List Exchange → Prop where
  | refuse {fault : Fault} (hp : send.point = .starting)
      (hs : insecure? send.request = some fault) :
      Walks cache i send (.sign i) (.done (.error fault)) []
  | submit {again : Bool} {c : Cache.CallId} {call : Cache.Call} {header : String}
      {signed : Request} (hp : send.point = .acquiring again c) (hc : cache.calls[c]? = some call)
      (hq : call.point = .done (.returned (.ok header)))
      (ha : authorize (requestFor send.request again) header = .ok signed) :
      Walks cache i send (.submit i) (.awaiting again) [.handed i again signed]
  /-- The header cannot stand in a request. -/
  | misfit {again : Bool} {c : Cache.CallId} {call : Cache.Call} {header : String} {fault : Fault}
      (hp : send.point = .acquiring again c) (hc : cache.calls[c]? = some call)
      (hq : call.point = .done (.returned (.ok header)))
      (ha : authorize (requestFor send.request again) header = .error fault) :
      Walks cache i send (.submit i) (.done (.error fault)) []
  | fail {again : Bool} {c : Cache.CallId} {call : Cache.Call} {fault : Fault}
      (hp : send.point = .acquiring again c) (hc : cache.calls[c]? = some call)
      (hq : call.point = .done (.returned (.error fault))) :
      Walks cache i send (.submit i) (.done (.error fault)) []
  | lose {again : Bool} {fault : TransportFault} (hp : send.point = .awaiting again) :
      Walks cache i send (.deliver i (.error fault)) (.done (.error (.transport fault)))
        [.delivered i again (.error fault)]
  | settle {again : Bool} {response : Response} (hp : send.point = .awaiting again)
      (hr : again = true ∨ response.mayChallenge = false) :
      Walks cache i send (.deliver i (.ok response)) (.done (.ok response))
        [.delivered i again (.ok response)]
  | challenge {response : Response} (hp : send.point = .awaiting false)
      (hr : response.mayChallenge = true) :
      Walks cache i send (.deliver i (.ok response)) (.judging response)
        [.delivered i false (.ok response)]

namespace State

def note (s : State Memory) (lines : List Exchange) : State Memory :=
  { s with history := s.history ++ lines }

inductive Moves (h : Responder Memory) (t : Timing) (p : Policy) (s : State Memory) :
    Action → State Memory → Prop where
  | send {request : Request} {inside hasRuntime : Bool} : Moves h t p s
      (.send request inside hasRuntime) { s with sends := s.sends ++ [{ request, inside, hasRuntime }] }
  | cancel {i : SendId} : Moves h t p s (.cancel i) (s.cancelSend i)
  | walk {a : Action} {i : SendId} {send : Send} {q : Point} {lines : List Exchange}
      (hi : s.sends[i]? = some send) (hw : send.Walks s.cache i a q lines) :
      Moves h t p s a ((s.note lines).move i q)
  | sign {i : SendId} {send : Send} {context : Context} (hi : s.sends[i]? = some send)
      (hp : send.point = .starting) (hs : insecure? send.request = none)
      (hc : context = p.contextFor send.request) :
      Moves h t p s (.sign i)
        ({ s with memory := h.noted s.memory send.request context }.attempt i send
          (h.before s.memory send.request context) false)
  | decline {i : SendId} {send : Send} {response : Response} {context : Context} {memory : Memory}
      (hi : s.sends[i]? = some send) (hp : send.point = .judging response)
      (hl : send.contexts.getLast? = some context)
      (hj : h.answer s.memory (duplicate send.request) response context = (memory, none)) :
      Moves h t p s (.judge i)
        (({ s with memory }.record (.judged i response none)).move i (.done (.ok response)))
  | answer {i : SendId} {send : Send} {response : Response} {context next : Context}
      {memory : Memory} (hi : s.sends[i]? = some send) (hp : send.point = .judging response)
      (hl : send.contexts.getLast? = some context)
      (hj : h.answer s.memory (duplicate send.request) response context = (memory, some next)) :
      Moves h t p s (.judge i)
        (({ s with memory, cache := s.cache.report [.answering next] }.record
          (.judged i response (some next))).attempt i send next true)
  | cache {action : Cache.Action} {cache : Cache.State} (hc : s.cache.step t action = some cache) :
      Moves h t p s (.cache action) { s with cache }

variable {h : Responder Memory} {t : Timing} {p : Policy} {s s' : State Memory}

theorem note_nil (s : State Memory) : s.note [] = s := by
  simp [note]

theorem signSend_moves {i : SendId} (hstep : s.signSend h p i = some s') :
    Moves h t p s (.sign i) s' := by
  unfold signSend at hstep
  split at hstep
  next send hi =>
    split at hstep
    next hp hs =>
      cases hstep
      simpa only [note_nil] using Moves.walk hi (.refuse hp hs)
    next hp hs =>
      cases hstep
      exact .sign hi hp hs rfl
    next => cases hstep
  next => cases hstep

theorem submitSend_moves {i : SendId} (hstep : s.submitSend i = some s') :
    Moves h t p s (.submit i) s' := by
  unfold submitSend at hstep
  split at hstep
  next hi =>
    split at hstep
    next hc =>
      split at hstep
      next ha => cases hstep; exact .walk hi (.submit rfl hc rfl ha)
      next ha =>
        cases hstep
        simpa only [note_nil] using Moves.walk hi (.misfit rfl hc rfl ha)
    next hc =>
      cases hstep
      simpa only [note_nil] using Moves.walk hi (.fail rfl hc rfl)
    next => cases hstep
  next => cases hstep

theorem deliverSend_moves {i : SendId} {delivery : Delivery}
    (hstep : s.deliverSend i delivery = some s') : Moves h t p s (.deliver i delivery) s' := by
  unfold deliverSend at hstep
  split at hstep
  next request _ _ contexts cancelled again hi =>
    cases delivery with
    | error fault => cases hstep; exact .walk hi (.lose rfl)
    | ok response =>
      simp only at hstep
      split at hstep
      next hr =>
        cases hstep
        exact .walk hi (.settle rfl (by simpa using hr))
      next hr =>
        obtain ⟨rfl, hm⟩ : again = false ∧ response.mayChallenge = true := by simpa using hr
        cases hstep
        exact .walk hi (.challenge rfl hm)
  next => cases hstep

theorem judgeSend_moves {i : SendId} (hstep : s.judgeSend h i = some s') :
    Moves h t p s (.judge i) s' := by
  unfold judgeSend at hstep
  split at hstep
  next send hi =>
    split at hstep
    next response context hp hl =>
      cases hj : h.answer s.memory (duplicate send.request) response context with
      | mk memory next =>
        simp only [hj] at hstep
        cases next with
        | none => cases hstep; exact .decline hi hp hl hj
        | some next => cases hstep; exact .answer hi hp hl hj
    next => cases hstep
  next => cases hstep

theorem step_moves {a : Action} (hstep : s.step h t p a = some s') : Moves h t p s a s' := by
  cases a with
  | send => cases hstep; exact .send
  | cancel i => cases hstep; exact .cancel
  | sign i => exact signSend_moves hstep
  | submit i => exact submitSend_moves hstep
  | deliver i delivery => exact deliverSend_moves hstep
  | judge i => exact judgeSend_moves hstep
  | cache action =>
    obtain ⟨cache, hc, rfl⟩ := Option.map_eq_some_iff.mp hstep
    exact .cache hc

end State

/-- A send over `https` begins when it is told to. -/
theorem State.step_sign {s : State Memory} {i : SendId} {send : Send} {h : Responder Memory}
    {t : Timing} {p : Policy} (hi : s.sends[i]? = some send) (hp : send.point = .starting)
    (hs : insecure? send.request = none) :
    let context := p.contextFor send.request
    s.step h t p (.sign i) =
      some ({ s with memory := h.noted s.memory send.request context }.attempt i send
        (h.before s.memory send.request context) false) := by
  obtain ⟨request, around, runtime, contexts, cancelled, point⟩ := send
  cases hp
  simp only [step, signSend, hi, hs]

/-- A send that can hand its request over does so when it is told to. -/
theorem State.step_submit {s : State Memory} {i : SendId} {send : Send} {again : Bool}
    {c : Cache.CallId} {call : Cache.Call} {header : String} {signed : Request}
    {h : Responder Memory} {t : Timing} {p : Policy}
    (hi : s.sends[i]? = some send) (hp : send.point = .acquiring again c)
    (hc : s.cache.calls[c]? = some call) (hq : call.point = .done (.returned (.ok header)))
    (ha : authorize (requestFor send.request again) header = .ok signed) :
    s.step h t p (.submit i) = some ((s.record (.handed i again signed)).move i (.awaiting again)) := by
  obtain ⟨request, around, runtime, contexts, cancelled, point⟩ := send
  obtain ⟨context, style, inside, hasRuntime, flag, q⟩ := call
  cases hp
  cases hq
  simp only [step, submitSend, hi, hc, ha]

end BearerTokens.Signing
