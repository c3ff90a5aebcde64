import BearerTokens.Proofs.Signing.Runs

/-! # The way of a send

What the history tells of a send is one of a few rows of lines, and the point at which the send is says
which.  An attempt is begun, its request handed over and its answer delivered; between the two attempts
stands the word of the responder.
-/

namespace BearerTokens.Signing

open Http

variable {Memory : Type}

def Brought (cache : Cache.State) (context : Context) (c : Cache.CallId)
    (answer : Except Fault String) : Prop :=
  ∃ call : Cache.Call, cache.calls[c]? = some call ∧ call.context = context ∧
    call.point = .done (.returned answer)

theorem Brought.mono {cache cache' : Cache.State} {context : Context} {c : Cache.CallId}
    {answer : Except Fault String} (hr : cache.Retains cache') (hb : Brought cache context c answer) :
    Brought cache' context c answer := by
  obtain ⟨call, hc, hx, hp⟩ := hb
  obtain ⟨call', hc', hx', hp'⟩ := hr c call hc
  exact ⟨call', hc', hx'.trans hx, hp' _ hp⟩

theorem Brought.unique {cache : Cache.State} {context context' : Context} {c : Cache.CallId}
    {answer answer' : Except Fault String} (hb : Brought cache context c answer)
    (hb' : Brought cache context' c answer') : answer = answer' := by
  obtain ⟨call, hc, -, hp⟩ := hb
  obtain ⟨call', hc', -, hp'⟩ := hb'
  cases hc.symm.trans hc'
  cases hp.symm.trans hp'
  rfl

section Way

variable (cache : Cache.State) (i : SendId) (again : Bool) (request : Request) (context : Context)

inductive Signed : List Exchange → Prop where
  | intro {c : Cache.CallId} {header : String} {signed : Request}
      (hb : Brought cache context c (.ok header))
      (ha : authorize (requestFor request again) header = .ok signed) :
      Signed [.attempted i again context c, .handed i again signed]

inductive Attempt : Point → List Exchange → Prop where
  | acquiring {c : Cache.CallId} {call : Cache.Call} (hc : cache.calls[c]? = some call)
      (hx : call.context = context) :
      Attempt (.acquiring again c) [.attempted i again context c]
  | failed {c : Cache.CallId} {fault : Fault} (hb : Brought cache context c (.error fault)) :
      Attempt (.done (.error fault)) [.attempted i again context c]
  | misfit {c : Cache.CallId} {header : String} {fault : Fault}
      (hb : Brought cache context c (.ok header))
      (ha : authorize (requestFor request again) header = .error fault) :
      Attempt (.done (.error fault)) [.attempted i again context c]
  | awaiting {lines : List Exchange} (hl : Signed cache i again request context lines) :
      Attempt (.awaiting again) lines
  | lost {lines : List Exchange} {fault : TransportFault}
      (hl : Signed cache i again request context lines) :
      Attempt (.done (.error (.transport fault))) (lines ++ [.delivered i again (.error fault)])
  | settled {lines : List Exchange} {response : Response}
      (hl : Signed cache i again request context lines)
      (hr : again = true ∨ response.mayChallenge = false) :
      Attempt (.done (.ok response)) (lines ++ [.delivered i again (.ok response)])

/-- The contexts, the point and the lines of a send, where `chosen` holds of the context of a first
attempt and `judged` of what the responder said to a response. -/
inductive Course (chosen : Context → Prop) (judged : Context → Response → Option Context → Prop) :
    List Context → Point → List Exchange → Prop where
  | starting : Course chosen judged [] .starting []
  | refused {fault : Fault} (hs : insecure? request = some fault) :
      Course chosen judged [] (.done (.error fault)) []
  | first {context : Context} {q : Point} {lines : List Exchange} (hs : insecure? request = none)
      (hc : chosen context) (ha : Attempt cache i false request context q lines) :
      Course chosen judged [context] q lines
  | judging {context : Context} {lines : List Exchange} {response : Response}
      (hs : insecure? request = none) (hc : chosen context)
      (hl : Signed cache i false request context lines) (hm : response.mayChallenge = true) :
      Course chosen judged [context] (.judging response)
        (lines ++ [.delivered i false (.ok response)])
  | declined {context : Context} {lines : List Exchange} {response : Response}
      (hs : insecure? request = none) (hc : chosen context)
      (hl : Signed cache i false request context lines) (hm : response.mayChallenge = true)
      (hj : judged context response none) :
      Course chosen judged [context] (.done (.ok response))
        (lines ++ [.delivered i false (.ok response), .judged i response none])
  | second {context next : Context} {lines rest : List Exchange} {response : Response} {q : Point}
      (hs : insecure? request = none) (hc : chosen context)
      (hl : Signed cache i false request context lines) (hm : response.mayChallenge = true)
      (hj : judged context response (some next)) (ha : Attempt cache i true request next q rest) :
      Course chosen judged [context, next] q
        (lines ++ [.delivered i false (.ok response), .judged i response (some next)] ++ rest)

end Way

variable {cache cache' : Cache.State} {i : SendId} {again : Bool} {request : Request}
  {context : Context} {q : Point} {lines : List Exchange}

theorem Signed.mono (hr : cache.Retains cache') (hl : Signed cache i again request context lines) :
    Signed cache' i again request context lines := by
  obtain ⟨hb, ha⟩ := hl
  exact ⟨hb.mono hr, ha⟩

theorem Attempt.mono (hr : cache.Retains cache')
    (ha : Attempt cache i again request context q lines) :
    Attempt cache' i again request context q lines := by
  cases ha with
  | acquiring hc hx =>
    obtain ⟨call', hc', hx', -⟩ := hr _ _ hc
    exact .acquiring hc' (hx'.trans hx)
  | failed hb => exact .failed (hb.mono hr)
  | misfit hb ha => exact .misfit (hb.mono hr) ha
  | awaiting hl => exact .awaiting (hl.mono hr)
  | lost hl => exact .lost (hl.mono hr)
  | settled hl hm => exact .settled (hl.mono hr) hm

theorem Course.mono {chosen chosen' : Context → Prop}
    {judged judged' : Context → Response → Option Context → Prop} {contexts : List Context}
    (hr : cache.Retains cache') (hchosen : ∀ context, chosen context → chosen' context)
    (hjudged : ∀ context response next, judged context response next →
      judged' context response next)
    (hc : Course cache i request chosen judged contexts q lines) :
    Course cache' i request chosen' judged' contexts q lines := by
  cases hc with
  | starting => exact .starting
  | refused hs => exact .refused hs
  | first hs hc ha => exact .first hs (hchosen _ hc) (ha.mono hr)
  | judging hs hc hl hm => exact .judging hs (hchosen _ hc) (hl.mono hr) hm
  | declined hs hc hl hm hj =>
    exact .declined hs (hchosen _ hc) (hl.mono hr) hm (hjudged _ _ _ hj)
  | second hs hc hl hm hj ha =>
    exact .second hs (hchosen _ hc) (hl.mono hr) hm (hjudged _ _ _ hj) (ha.mono hr)

theorem Send.Walks.not_done {send : Send} {a : Action} {answer : Except Fault Response}
    (hw : send.Walks cache i a q lines) : send.point ≠ .done answer := by
  intro hp
  cases hw with
  | refuse hq | submit hq | misfit hq | fail hq | lose hq | settle hq | challenge hq =>
    cases hp.symm.trans hq

/-- Where an attempt goes by itself: on, or before the responder. -/
theorem Attempt.walk {send : Send} {a : Action} {new : List Exchange} {q' : Point}
    (ha : Attempt cache i again request context q lines) (hq : send.point = q)
    (hr : send.request = request) (hw : send.Walks cache i a q' new) :
    Attempt cache i again request context q' (lines ++ new) ∨
      again = false ∧ Signed cache i false request context lines ∧ ∃ response : Response,
        response.mayChallenge = true ∧ q' = .judging response ∧
          new = [.delivered i false (.ok response)] := by
  subst hr
  cases ha with
  | acquiring hc hx =>
    cases hw with
    | submit hp hc' hret hauth =>
      cases hq.symm.trans hp
      cases hc.symm.trans hc'
      exact .inl (.awaiting (.intro ⟨_, hc, hx, hret⟩ hauth))
    | misfit hp hc' hret hauth =>
      cases hq.symm.trans hp
      cases hc.symm.trans hc'
      exact .inl (.misfit ⟨_, hc, hx, hret⟩ hauth)
    | fail hp hc' hret =>
      cases hq.symm.trans hp
      cases hc.symm.trans hc'
      exact .inl (.failed ⟨_, hc, hx, hret⟩)
    | refuse hp | lose hp | settle hp | challenge hp => cases hq.symm.trans hp
  | awaiting hl =>
    cases hw with
    | lose hp =>
      cases hq.symm.trans hp
      exact .inl (.lost hl)
    | settle hp hm =>
      cases hq.symm.trans hp
      exact .inl (.settled hl hm)
    | challenge hp hm =>
      cases hq.symm.trans hp
      exact .inr ⟨rfl, hl, _, hm, rfl, rfl⟩
    | refuse hp | submit hp | misfit hp | fail hp => cases hq.symm.trans hp
  | failed | misfit | lost | settled => exact absurd hq hw.not_done

theorem Attempt.not_judging {response : Response}
    (ha : Attempt cache i again request context q lines) : q ≠ .judging response := by
  intro hq
  cases ha <;> cases hq

theorem Attempt.not_starting (ha : Attempt cache i again request context q lines) :
    q ≠ .starting := by
  intro hq
  cases ha <;> cases hq

section Steps

variable {chosen : Context → Prop} {judged : Context → Response → Option Context → Prop}
  {contexts : List Context}

theorem Course.walk {send : Send} {a : Action} {new : List Exchange} {q' : Point}
    (hc : Course cache i request chosen judged contexts q lines) (hq : send.point = q)
    (hr : send.request = request) (hw : send.Walks cache i a q' new) :
    Course cache i request chosen judged contexts q' (lines ++ new) := by
  cases hc with
  | starting =>
    subst hr
    cases hw with
    | refuse _ hs => exact .refused hs
    | submit hp | misfit hp | fail hp | lose hp | settle hp | challenge hp =>
      cases hq.symm.trans hp
  | judging =>
    cases hw with
    | refuse hp | submit hp | misfit hp | fail hp | lose hp | settle hp | challenge hp =>
      cases hq.symm.trans hp
  | refused | declined => exact absurd hq hw.not_done
  | first hs hc ha =>
    rcases ha.walk hq hr hw with ha | ⟨-, hl, response, hm, rfl, rfl⟩
    · exact .first hs hc ha
    · exact .judging hs hc hl hm
  | second hs hc hl hm hj ha =>
    rcases ha.walk hq hr hw with ha | ⟨hagain, -⟩
    · rw [List.append_assoc]
      exact .second hs hc hl hm hj ha
    · cases hagain

theorem Course.sign {c : Cache.CallId} {call : Cache.Call}
    (hc : Course cache i request chosen judged contexts .starting lines)
    (hs : insecure? request = none) (hchosen : chosen context)
    (hcall : cache.calls[c]? = some call) (hx : call.context = context) :
    Course cache i request chosen judged (contexts ++ [context]) (.acquiring false c)
      (lines ++ [.attempted i false context c]) := by
  cases hc with
  | starting => exact .first hs hchosen (.acquiring hcall hx)
  | first _ _ ha | second _ _ _ _ _ ha => exact absurd rfl ha.not_starting

theorem Course.decline {response : Response}
    (hc : Course cache i request chosen judged contexts (.judging response) lines)
    (hl : contexts.getLast? = some context) (hj : judged context response none) :
    Course cache i request chosen judged contexts (.done (.ok response))
      (lines ++ [.judged i response none]) := by
  cases hc with
  | judging hs hc hsigned hm =>
    cases hl
    rw [List.append_assoc]
    exact .declined hs hc hsigned hm hj
  | first _ _ ha | second _ _ _ _ _ ha => exact absurd rfl ha.not_judging

theorem Course.answer {response : Response} {next : Context} {c : Cache.CallId} {call : Cache.Call}
    (hc : Course cache i request chosen judged contexts (.judging response) lines)
    (hl : contexts.getLast? = some context) (hj : judged context response (some next))
    (hcall : cache.calls[c]? = some call) (hx : call.context = next) :
    Course cache i request chosen judged (contexts ++ [next]) (.acquiring true c)
      (lines ++ [.judged i response (some next), .attempted i true next c]) := by
  cases hc with
  | @judging context before _ hs hc hsigned hm =>
    cases hl
    have hrows : before ++ [.delivered i false (.ok response)] ++
        [.judged i response (some next), .attempted i true next c] =
          before ++ [.delivered i false (.ok response), .judged i response (some next)] ++
            [.attempted i true next c] := by simp
    rw [hrows]
    exact .second hs hc hsigned hm hj (.acquiring hcall hx)
  | first _ _ ha | second _ _ _ _ _ ha => exact absurd rfl ha.not_judging

end Steps

namespace State

variable {h : Responder Memory} {t : Timing} {p : Policy} {s x y : State Memory}
  {actions : List Action} {a : Action} {send : Send}

def Chosen (h : Responder Memory) (t : Timing) (p : Policy) (s : State Memory)
    (actions : List Action) (i : SendId) (request : Request) (context : Context) : Prop :=
  s.When h t p actions (.sign i) fun x => context = h.before x.memory request (p.contextFor request)

def Judged (h : Responder Memory) (t : Timing) (p : Policy) (s : State Memory)
    (actions : List Action) (i : SendId) (request : Request) (context : Context)
    (response : Response) (next : Option Context) : Prop :=
  s.When h t p actions (.judge i) fun x =>
    (h.answer x.memory (duplicate request) response context).2 = next

def Goes (h : Responder Memory) (t : Timing) (p : Policy) (s : State Memory)
    (actions : List Action) (x : State Memory) (i : SendId) (send : Send) : Prop :=
  Course x.cache i send.request (s.Chosen h t p actions i send.request)
    (s.Judged h t p actions i send.request) send.contexts send.point (x.linesOf i)

theorem Goes.step {new : List Exchange} (hrun : s.run? h t p actions = some x)
    (hr : x.cache.Retains y.cache) (hlines : y.linesOf i = x.linesOf i ++ new)
    (hnone : x.sends.length ≤ i → x.linesOf i = [])
    (hgo : ∀ before, x.sends[i]? = some before → s.Goes h t p actions x i before)
    (hf : x.SendFrom h p y a i send new) : s.Goes h t p (actions ++ [a]) y i send := by
  unfold Goes
  rw [hlines]
  have hmono {request : Request} {contexts : List Context} {q : Point} {lines : List Exchange}
      (hc : Course x.cache i request (s.Chosen h t p actions i request)
        (s.Judged h t p actions i request) contexts q lines) :
      Course y.cache i request (s.Chosen h t p (actions ++ [a]) i request)
        (s.Judged h t p (actions ++ [a]) i request) contexts q lines :=
    hc.mono hr (fun _ => When.mono) fun _ _ _ => When.mono
  cases hf with
  | same flag hi =>
    have hway := hmono (hgo _ hi)
    rw [List.append_nil]
    exact hway
  | added =>
    rw [hnone (Nat.le_refl _)]
    exact .starting
  | walked hi hw => exact hmono ((hgo _ hi).walk rfl rfl hw)
  | signed hi hp hs hb hc hx =>
    have hway := hmono (hgo _ hi)
    rw [hp] at hway
    exact hway.sign hs (.last hrun hb) hc hx
  | declined hi hp hl hj =>
    have hway := hmono (hgo _ hi)
    rw [hp] at hway
    exact hway.decline hl (.last hrun hj)
  | answered hi hp hl hj hc hx =>
    have hway := hmono (hgo _ hi)
    rw [hp] at hway
    exact hway.answer hl (.last hrun hj) hc hx

/-- Every send of a run that began without any goes its way. -/
theorem run_goes {cache : Cache.State} {memory : Memory}
    (hrun : run? h t p { cache, memory } actions = some x) (hi : x.sends[i]? = some send) :
    Goes h t p { cache, memory } actions x i send := by
  -- a new send starts without lines, so the invariant speaks of the sends to come as well
  have hall := run_induction_on (P := fun actions x =>
    (x.sends.length ≤ i → x.linesOf i = []) ∧
      ∀ send, x.sends[i]? = some send → Goes h t p { cache, memory } actions x i send)
    hrun ⟨fun _ => rfl, fun send hi => by simp at hi⟩ ?_
  · exact hall.2 send hi
  · rintro before a x y hx hstep ⟨hnone, hgo⟩
    have hm := step_moves hstep
    refine ⟨fun hle => ?_, fun send hi => ?_⟩
    · obtain ⟨hle, hlines⟩ := hm.unsent hle
      rw [hlines, hnone hle]
    · obtain ⟨new, hf, hlines⟩ := hm.sendFrom hi
      exact Goes.step hx hm.retains hlines hnone hgo hf

/-- A send keeps the request with which it was begun. -/
theorem run_sent {cache : Cache.State} {memory : Memory}
    (hrun : run? h t p { cache, memory } actions = some x) (hi : x.sends[i]? = some send) :
    When h t p { cache, memory } actions (.send send.request send.inside send.hasRuntime) fun x => x.sends.length = i := by
  refine run_induction_on (P := fun actions x => ∀ send, x.sends[i]? = some send →
    When h t p { cache, memory } actions (.send send.request send.inside send.hasRuntime) fun x => x.sends.length = i)
    hrun (fun send hi => by simp at hi) ?_ send hi
  intro before a x y hx hstep hsent send hi
  obtain ⟨new, hf, -⟩ := (step_moves hstep).sendFrom hi
  cases hf with
  | same _ hb | walked hb | signed hb | declined hb | answered hb => exact (hsent _ hb).mono
  | added => exact .last hx rfl

end State

end BearerTokens.Signing
