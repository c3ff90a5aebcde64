import BearerTokens.Credential.Fixed
import BearerTokens.Proofs.Cache.Lifetime
import BearerTokens.Proofs.Cache.Lineage
import BearerTokens.Proofs.Cache.SingleFlight

/-! # A fixed token through a cache

A session is what calls make of a cache in front of a credential with one token, when they come one after
another, each to its end and none cancelled.  The clock shows one reading for each call and moves as it
likes between them; renewals go on at any time.  Every pass that the cache ever comes to hold is a copy of the
token's, so its checks of the expiry and the credential's agree on one boundary.
-/

namespace BearerTokens

def FixedCredential.verdict (cred : FixedCredential) (now : Instant) : Except Fault String :=
  if cred.token.expiredAt now then .error (.credential (.unavailable FixedCredential.expiredText))
  else .ok cred.token.secret.header

namespace Cache

/-- What may happen in a session besides new calls.  `clock` has the reading for each call. -/
inductive Action.Fits (t : Timing) (cred : FixedCredential) (clock : CallId → Instant) :
    Action → Prop where
  | decide (c : CallId) : Fits t cred clock (.decide c (clock c))
  | enter (c : CallId) : Fits t cred clock (.enter c)
  | ask (c : CallId) : Fits t cred clock (.ask c)
  | answer (c : CallId) (context : Context) :
      Fits t cred clock (.answer c (cred.answer context (clock c)))
  | close (c : CallId) : Fits t cred clock (.close c)
  | resume (c : CallId) : Fits t cred clock (.resume c)
  | launch (c : CallId) : Fits t cred clock (.launch c)
  /-- Without a runtime the call computes when to try again. -/
  | settle (c : CallId) (hl : ((clock c).after? t.retry).isSome) :
      Fits t cred clock (.settle c (clock c))
  | finish (c : CallId) : Fits t cred clock (.finish c)
  | begin (r : RenewalId) : Fits t cred clock (.begin r)
  | askRenewal (r : RenewalId) : Fits t cred clock (.askRenewal r)
  | answerRenewal (r : RenewalId) (context : Context) (asked now : Instant) :
      Fits t cred clock (.answerRenewal r (cred.answer context asked) now)
  | expire (r : RenewalId) (now : Instant) : Fits t cred clock (.expire r now)
  | closeRenewal (r : RenewalId) : Fits t cred clock (.closeRenewal r)
  | countRenewal (r : RenewalId) : Fits t cred clock (.countRenewal r)
  | abandon (r : RenewalId) : Fits t cred clock (.abandon r)

/-- A new call comes when all others are done, and is not refused for how it waits. -/
inductive Session (t : Timing) (cred : FixedCredential) (clock : CallId → Instant) : State → Prop where
  | start : Session t cred clock {}
  | call {s : State} {context : Context} {style : Style} {inside hasRuntime : Bool}
      (h : Session t cred clock s)
      (hdone : ∀ (c : CallId) (call : Call), s.calls[c]? = some call → ∃ exit, call.point = .done exit)
      (hstyle : style.refusal? inside hasRuntime = none) :
      Session t cred clock (s.call context style inside hasRuntime)
  | step {s s' : State} {a : Action} (h : Session t cred clock s) (ha : a.Fits t cred clock)
      (hs : s.step t a = some s') : Session t cred clock s'

variable {t : Timing} {cred : FixedCredential} {clock : CallId → Instant} {s s' : State}

theorem Session.reachable (h : Session t cred clock s) : Reachable t s := by
  induction h with
  | start => exact .start
  | @call _ context style inside hasRuntime _ _ _ ih =>
    exact ih.step (a := .call context style inside hasRuntime) rfl
  | step _ _ hs ih => exact ih.step hs

theorem Session.run (h : Session t cred clock s) {actions : List Action}
    (hrun : s.run? t actions = some s') (ha : ∀ a ∈ actions, a.Fits t cred clock) :
    Session t cred clock s' := by
  refine State.run_induction (P := Session t cred clock) hrun h fun a x y hmem hstep hx => ?_
  exact hx.step (ha a hmem) hstep

/-! ## Copies of one pass -/

def Call.Point.Agrees (cred : FixedCredential) (p : Pass) (now : Instant) : Call.Point → Prop
  | .deciding | .opening _ | .calling _ | .asking _ => True
  | .closing _ o exit => o.Copies p ∧ exit = .returned (cred.verdict now)
  | .waiting _ => False
  | .launching _ _ q => q.Copies p ∧ now < p.expiry
  | .settling _ exit => exit = .returned (cred.verdict now) ∧ now < p.expiry
  | .done exit => exit = .returned (cred.verdict now)

/-- The cache knows of no other pass, one call at most is not done, and none is about to say anything but
the verdict. -/
structure State.Fixed (cred : FixedCredential) (clock : CallId → Instant) (p : Pass) (s : State) :
    Prop where
  alone (c d : CallId) (x y : Call) : s.calls[c]? = some x → s.calls[d]? = some y →
    (∀ exit, x.point ≠ .done exit) → (∀ exit, y.point ≠ .done exit) → c = d
  flight (f : FlightId) (o : Outcome) : s.outcome? f = some o → o.Copies p
  call (c : CallId) (call : Call) : s.calls[c]? = some call →
    call.cancelled = false ∧ call.point.Agrees cred p (clock c)
  renewal (r : RenewalId) (renewal : Renewal) : s.renewals[r]? = some renewal →
    renewal.previous.Copies p ∧ ∀ o ending, renewal.point = .closing o ending → o.Copies p

/-! ## Answers of the credential -/

section Answers

variable {p : Pass} {now : Instant} {context : Context} {c : CallId} {answer : Answer}

theorem Action.Fits.answer_eq (h : (Action.answer c answer).Fits t cred clock) :
    ∃ context, answer = cred.answer context (clock c) := by
  generalize ha : Action.answer c answer = a at h
  cases h with
  | answer d context =>
    cases ha
    exact ⟨context, rfl⟩
  | _ => cases ha

theorem Action.Fits.answerRenewal_eq {r : RenewalId}
    (h : (Action.answerRenewal r answer now).Fits t cred clock) :
    ∃ context asked, answer = cred.answer context asked := by
  generalize ha : Action.answerRenewal r answer now = a at h
  cases h with
  | answerRenewal s context asked later =>
    cases ha
    exact ⟨context, asked, rfl⟩
  | _ => cases ha

theorem answer_eq_ok {token : Token} (h : cred.answer context now = .ok token) :
    token = cred.token ∧ now < cred.token.expiry.instant := by
  unfold FixedCredential.answer at h
  split at h
  next => cases h
  next he =>
    cases h
    refine ⟨rfl, Instant.not_le.mp fun hle => he ?_⟩
    exact decide_eq_true hle

theorem answer_eq_error {fault : CredentialFault} (h : cred.answer context now = .error fault) :
    fault = .unavailable FixedCredential.expiredText ∧ cred.token.expiry.instant ≤ now := by
  unfold FixedCredential.answer at h
  split at h
  next he =>
    cases h
    exact ⟨rfl, of_decide_eq_true he⟩
  next => cases h

theorem verdict_of_lt (h : now < cred.token.expiry.instant) :
    cred.verdict now = .ok cred.token.secret.header := by
  refine if_neg fun he => ?_
  exact absurd (of_decide_eq_true he) (Instant.not_le.mpr h)

theorem verdict_of_le (h : cred.token.expiry.instant ≤ now) :
    cred.verdict now = .error (.credential (.unavailable FixedCredential.expiredText)) :=
  if_pos (decide_eq_true h)

theorem verdict_of_copies {q : Pass} (hp : Pass.ofToken? cred.token t.lead = some p) (hq : q.Copies p)
    (h : now < p.expiry) : Except.ok q.header = cred.verdict now := by
  obtain ⟨i, -, rfl⟩ := Option.map_eq_some_iff.mp hp
  rw [hq.1, verdict_of_lt h]

end Answers

/-! ## One step of a session -/

namespace State

variable {p : Pass} {a : Action}

theorem Fixed.step_flight (hs : s.Fixed cred clock p) (hm : Moves t s a s') {f : FlightId} {o : Outcome}
    (ho : s'.outcome? f = some o) : o.Copies p := by
  obtain ⟨flight, hf, hfo⟩ := Option.bind_eq_some_iff.mp ho
  -- an outcome that is written now copies the pass, and one that was there before does
  have hwrite {before : Flight} {o' : Outcome} (hb : s.flights[f]? = some before) (ho' : o'.Copies p)
      (hw : (before.write o').outcome = some o) : o.Copies p := by
    rcases Flight.outcome_write hw with hold | rfl
    · exact hs.flight f o (by simp [outcome?, hb, hold])
    · exact ho'
  cases hm.flightFrom hf with
  | same hi => exact hs.flight f o (by simp [outcome?, hi, hfo])
  | opened => cases hfo
  | closed hc hp hb =>
    have hagrees := (hs.call _ _ hc).2
    rw [hp] at hagrees
    exact hwrite hb hagrees.1 hfo
  | filled hr hp hb => exact hwrite hb ((hs.renewal _ _ hr).2 _ _ hp) hfo

theorem Fixed.step_renewal (hs : s.Fixed cred clock p) (hp : Pass.ofToken? cred.token t.lead = some p)
    (hm : Moves t s a s') (ha : a.Fits t cred clock) {r : RenewalId} {renewal : Renewal}
    (h : s'.renewals[r]? = some renewal) :
    renewal.previous.Copies p ∧ ∀ o ending, renewal.point = .closing o ending → o.Copies p := by
  cases hm.renewalFrom h with
  | same hi => exact hs.renewal r renewal hi
  | started hc hq hrenewal hstart =>
    subst hrenewal
    have hagrees := (hs.call _ _ hc).2
    rw [hq] at hagrees
    cases hstart with
    | hosted => exact ⟨hagrees.1, nofun⟩
    | alone hk => exact ⟨hagrees.1, fun o ending hclosing => hk.copies hagrees.1 hclosing⟩
  | walked hi hw =>
    have hprev := (hs.renewal _ _ hi).1
    refine ⟨hprev, fun o ending hq => ?_⟩
    cases hw with
    | answered _ ht =>
      obtain ⟨context, asked, hanswer⟩ := ha.answerRenewal_eq
      obtain ⟨rfl, -⟩ := answer_eq_ok hanswer.symm
      obtain rfl := Option.some.inj (hp.symm.trans ht)
      cases hq
      rintro _ ⟨⟩
      exact .refl _
    | refused _ hk => exact hk.copies hprev hq
    | expire _ hk => exact hk.copies hprev hq
    | begin | ask => cases hq
    | unfit | abandon =>
      cases hq
      exact nofun
  | closed hi => exact ⟨(hs.renewal _ _ hi).1, nofun⟩
  | counted hi => exact ⟨(hs.renewal _ _ hi).1, nofun⟩

/-- A call that decides finds no open flight: its owner would be a second call that is not done. -/
theorem Fixed.not_open (hs : s.Fixed cred clock p) (hr : Reachable t s) {c : CallId} {call : Call}
    (hc : s.calls[c]? = some call) (hp : call.point = .deciding) {f : FlightId}
    (hf : s.holding.current = some f) : s.outcome? f ≠ none := by
  intro ho
  obtain ⟨d, hd, -⟩ := hr.current_owner hf ho
  obtain ⟨owner, howner, hdrives⟩ := Option.bind_eq_some_iff.mp hd
  have hsame : c = d := by
    refine hs.alone c d call owner hc howner (fun exit he => ?_) (fun exit he => ?_)
    · cases hp.symm.trans he
    · rw [he] at hdrives
      cases hdrives
  subst hsame
  cases hc.symm.trans howner
  rw [hp] at hdrives
  cases hdrives

/-- What is used is a copy of the token's pass, before it expires. -/
theorem Fixed.usable (hs : s.Fixed cred clock p) {m : Holding} {now : Instant} {source : FlightId}
    {q : Pass} (hu : m.usable s.outcome? now = some (source, q)) : q.Copies p ∧ now < p.expiry := by
  obtain ⟨-, ho, he⟩ := Holding.usable_eq_some.mp hu
  have hq : q.Copies p := hs.flight source _ ho q rfl
  rw [hq.expiredAt_eq, Pass.expiredAt_eq_false_iff] at he
  exact ⟨hq, he⟩

theorem Fixed.step_decided (hs : s.Fixed cred clock p) (hr : Reachable t s)
    (hp : Pass.ofToken? cred.token t.lead = some p) {c : CallId} {call : Call}
    (hc : s.calls[c]? = some call) (hq : call.point = .deciding) {h' : Holding} {d : Decision}
    (hd : s.holding.Decides s.outcome? s.flights.length call.context (clock c) h' d) :
    d.leads.Agrees cred p (clock c) := by
  cases hd with
  | anew | lapsed => trivial
  | wait _ _ hf ho => exact absurd ho (hs.not_open hr hc hq hf)
  | renew _ _ _ _ _ hu => exact hs.usable hu
  | serve _ _ _ _ _ hu =>
    obtain ⟨hcopies, hlt⟩ := hs.usable hu
    exact congrArg Exit.returned (verdict_of_copies hp hcopies hlt)

theorem Fixed.step_walked (hs : s.Fixed cred clock p) (hp : Pass.ofToken? cred.token t.lead = some p)
    (ha : a.Fits t cred clock) {c : CallId} {call : Call} {point : Call.Point} {lines : List Happening}
    {tally : Metrics → Metrics} (hc : s.calls[c]? = some call)
    (hw : call.Walks t s c a point lines tally) : point.Agrees cred p (clock c) := by
  have hagrees := (hs.call c call hc).2
  cases hw with
  | enter | ask => trivial
  | answered _ ht =>
    obtain ⟨context, hanswer⟩ := ha.answer_eq
    obtain ⟨rfl, hlt⟩ := answer_eq_ok hanswer.symm
    obtain rfl := Option.some.inj (hp.symm.trans ht)
    have hcopies : Outcome.Copies (.ready p) p := by
      rintro _ ⟨⟩
      exact .refl p
    rw [← (Pass.ofToken?_eq hp).2] at hlt
    exact ⟨hcopies, congrArg Exit.returned (verdict_of_copies hp (.refl p) hlt)⟩
  | unfit _ ht =>
    obtain ⟨context, hanswer⟩ := ha.answer_eq
    obtain ⟨rfl, -⟩ := answer_eq_ok hanswer.symm
    cases hp.symm.trans ht
  | refused =>
    obtain ⟨context, hanswer⟩ := ha.answer_eq
    obtain ⟨rfl, hle⟩ := answer_eq_error hanswer.symm
    exact ⟨nofun, congrArg Exit.returned (verdict_of_le hle).symm⟩
  | again hq | share hq =>
    -- nobody waits, since nobody else is under way
    rw [hq] at hagrees
    exact hagrees.elim
  | finish hq =>
    rw [hq] at hagrees
    exact hagrees.1
  | crash | withdrawEarly | withdrawWaiting | withdraw | dropIdle | drop => cases ha

theorem Fixed.step_call (hs : s.Fixed cred clock p) (hr : Reachable t s)
    (hp : Pass.ofToken? cred.token t.lead = some p) (hm : Moves t s a s') (ha : a.Fits t cred clock)
    {c : CallId} {call : Call} (hc : s'.calls[c]? = some call) :
    call.cancelled = false ∧ call.point.Agrees cred p (clock c) := by
  cases hm.callFrom hc with
  | same hi => exact hs.call c call hi
  | added | flagged => cases ha
  | decided hi hq hd =>
    cases ha
    exact ⟨(hs.call _ _ hi).1, hs.step_decided hr hp hi hq hd⟩
  | walked hi hw => exact ⟨(hs.call _ _ hi).1, hs.step_walked hp ha hi hw⟩
  | closed hi hq =>
    obtain ⟨hn, hagrees⟩ := hs.call _ _ hi
    rw [hq] at hagrees
    exact ⟨hn, hagrees.2⟩
  | launched hi hq hrenewal hstart =>
    obtain ⟨hn, hagrees⟩ := hs.call _ _ hi
    rw [hq] at hagrees
    obtain ⟨hcopies, hlt⟩ := hagrees
    have hverdict := congrArg Exit.returned (verdict_of_copies hp hcopies hlt)
    subst hrenewal
    refine ⟨hn, ?_⟩
    cases hstart with
    | hosted =>
      cases ha
      exact hverdict
    | alone _ hexit =>
      cases ha with
      | settle _ hl =>
        -- the call settles its renewal itself and keeps what it was to return
        obtain ⟨later, hlater⟩ := Option.isSome_iff_exists.mp hl
        rw [hexit]
        simp only [Pass.deferred?, hlater, Option.map_some, Option.isSome_some, if_true]
        exact ⟨hverdict, hlt⟩

theorem Moves.undone (hm : Moves t s a s') (ha : a.Fits t cred clock) {c : CallId} {call : Call}
    (hc : s'.calls[c]? = some call) (hn : ∀ exit, call.point ≠ .done exit) :
    ∃ before, s.calls[c]? = some before ∧ ∀ exit, before.point ≠ .done exit := by
  cases hm.callFrom hc with
  | same hi => exact ⟨call, hi, hn⟩
  | added | flagged => cases ha
  | decided hi hq | launched hi hq =>
    refine ⟨_, hi, fun exit he => ?_⟩
    cases hq.symm.trans he
  | walked hi hw => exact ⟨_, hi, fun exit => walks_not_done hw⟩
  | closed => exact absurd rfl (hn _)

theorem Fixed.step (hs : s.Fixed cred clock p) (hr : Reachable t s)
    (hp : Pass.ofToken? cred.token t.lead = some p) (hm : Moves t s a s') (ha : a.Fits t cred clock) :
    s'.Fixed cred clock p where
  alone c d x y hx hy hxn hyn := by
    obtain ⟨x', hx', hxn'⟩ := hm.undone ha hx hxn
    obtain ⟨y', hy', hyn'⟩ := hm.undone ha hy hyn
    exact hs.alone c d x' y' hx' hy' hxn' hyn'
  flight _ _ ho := hs.step_flight hm ho
  call _ _ hc := hs.step_call hr hp hm ha hc
  renewal _ _ h := hs.step_renewal hp hm ha h

theorem call_eq {context : Context} {style : Style} {inside hasRuntime : Bool}
    (hstyle : style.refusal? inside hasRuntime = none) :
    s.call context style inside hasRuntime =
      { s with calls := s.calls ++ [({ context, style, inside, hasRuntime } : Call)] } := by
  simp [State.call, hstyle]

theorem Fixed.call_new (hs : s.Fixed cred clock p)
    (hdone : ∀ (c : CallId) (call : Call), s.calls[c]? = some call → ∃ exit, call.point = .done exit)
    (context : Context) (style : Style) (inside hasRuntime : Bool) : State.Fixed cred clock p
      { s with calls := s.calls ++ [({ context, style, inside, hasRuntime } : Call)] } where
  alone c d x y hx hy hxn hyn := by
    have hlast {i : CallId} {call : Call}
        (hi : (s.calls ++ [({ context, style, inside, hasRuntime } : Call)])[i]? = some call)
        (hn : ∀ exit, call.point ≠ .done exit) : i = s.calls.length := by
      rw [getElem?_concat] at hi
      split at hi
      next he => exact he
      next =>
        obtain ⟨exit, he⟩ := hdone i call hi
        exact absurd he (hn exit)
    rw [hlast hx hxn, hlast hy hyn]
  flight f o ho := hs.flight f o ho
  call c call hc := by
    change (s.calls ++ [({ context, style, inside, hasRuntime } : Call)])[c]? = some call at hc
    rw [getElem?_concat] at hc
    split at hc
    next =>
      cases hc
      exact ⟨rfl, trivial⟩
    next => exact hs.call c call hc
  renewal r renewal h := hs.renewal r renewal h

end State

theorem Session.fixed {p : Pass} (h : Session t cred clock s)
    (hp : Pass.ofToken? cred.token t.lead = some p) : s.Fixed cred clock p := by
  induction h with
  | start => exact ⟨by simp, by simp [State.outcome?], by simp, by simp⟩
  | call _ hdone hstyle ih =>
    rw [State.call_eq hstyle]
    exact ih.call_new hdone ..
  | step h ha hs ih => exact ih.step h.reachable hp (State.step_moves hs) ha

/-! ## Calls come to their end -/

def getActions (cred : FixedCredential) (context : Context) (now : Instant) (c : CallId)
    (r : RenewalId) (hosted : Bool) : List Action :=
  [.decide c now, .enter c, .ask c, .answer c (cred.answer context now), .close c,
    if hosted then .launch c else .settle c now, .closeRenewal r, .countRenewal r, .finish c]

section Ends

variable {context : Context} {c : CallId} {call : Call} {r : RenewalId} {hosted : Bool}

theorem getActions_fits (hl : hosted = true ∨ ((clock c).after? t.retry).isSome) :
    ∀ a ∈ getActions cred context (clock c) c r hosted, a.Fits t cred clock := by
  intro a ha
  simp only [getActions, List.mem_cons, List.not_mem_nil, or_false] at ha
  rcases ha with rfl | rfl | rfl | rfl | rfl | rfl | rfl | rfl | rfl
  · exact .decide c
  · exact .enter c
  · exact .ask c
  · exact .answer c context
  · exact .close c
  · cases hosted with
    | true => exact .launch c
    | false => exact .settle c (hl.resolve_left Bool.false_ne_true)
  · exact .closeRenewal r
  · exact .countRenewal r
  · exact .finish c

namespace State

theorem Attains.mono {own own' : List Action} {P Q : State → Prop} (h : s.Attains t own P)
    (hown : ∀ a ∈ own, a ∈ own') (hPQ : ∀ x, P x → Q x) : s.Attains t own' Q := by
  obtain ⟨actions, x, hactions, hrun, hx⟩ := h
  exact ⟨actions, x, fun a ha => hown a (hactions a ha), hrun, hPQ x hx⟩

def Completes (t : Timing) (cred : FixedCredential) (context : Context) (now : Instant)
    (hosted : Bool) (s : State) (c : CallId) : Prop :=
  ∃ r, s.Attains t (getActions cred context now c r hosted) fun x =>
    ∃ call exit, x.calls[c]? = some call ∧ call.point = .done exit

variable {now : Instant} {a : Action} {f : FlightId}

theorem Completes.of_step (ha : ∀ r, a ∈ getActions cred context now c r hosted)
    (h : s.step t a = some s') (hs : s'.Completes t cred context now hosted c) :
    s.Completes t cred context now hosted c := by
  obtain ⟨r, hr⟩ := hs
  exact ⟨r, .of_step (ha r) h hr⟩

theorem Completes.of_walk {p : Call.Point} {lines : List Happening} {tally : Metrics → Metrics}
    (hw : call.Walks t s c a p lines tally) (ha : ∀ r, a ∈ getActions cred context now c r hosted)
    (hc : s.calls[c]? = some call)
    (h : ∀ x : State, x.calls[c]? = some { call with point := p } →
      x.Completes t cred context now hosted c) : s.Completes t cred context now hosted c :=
  .of_step ha (hw.step hc) (h _ (moveCall_self (by exact hc)))

theorem completes_done {exit : Exit} (hc : s.calls[c]? = some call) (hp : call.point = .done exit) :
    s.Completes t cred context now hosted c :=
  ⟨0, .now ⟨call, exit, hc, hp⟩⟩

theorem completes_closing {o : Outcome} {exit : Exit} (hc : s.calls[c]? = some call)
    (hp : call.point = .closing f o exit) : s.Completes t cred context now hosted c := by
  refine .of_step (by simp [getActions]) (step_closeCall hc hp) ?_
  exact completes_done (moveCall_self (by exact hc)) rfl

theorem completes_asking (hc : s.calls[c]? = some call) (hp : call.point = .asking f) :
    s.Completes t cred context now hosted c := by
  have ha (r : RenewalId) :
      Action.answer c (cred.answer context now) ∈ getActions cred context now c r hosted := by
    simp [getActions]
  cases hanswer : cred.answer context now with
  | error fault =>
    rw [hanswer] at ha
    exact .of_walk (.refused hp) ha hc fun x hx => completes_closing hx rfl
  | ok token =>
    rw [hanswer] at ha
    cases ht : Pass.ofToken? token t.lead with
    | some pass => exact .of_walk (.answered hp ht) ha hc fun x hx => completes_closing hx rfl
    | none => exact .of_walk (.unfit hp ht) ha hc fun x hx => completes_closing hx rfl

theorem completes_calling (hc : s.calls[c]? = some call) (hp : call.point = .calling f)
    (hn : call.cancelled = false) : s.Completes t cred context now hosted c :=
  .of_walk (.ask hp hn) (by simp [getActions]) hc fun _ hx => completes_asking hx rfl

theorem completes_opening (hc : s.calls[c]? = some call) (hp : call.point = .opening f)
    (hn : call.cancelled = false) : s.Completes t cred context now hosted c :=
  .of_walk (.enter hp) (by simp [getActions]) hc fun _ hx => completes_calling hx rfl hn

/-- A call that is being served has made no request and returns by itself. -/
theorem completes_serving {header : String} (hr : Reachable t s) (hc : s.calls[c]? = some call)
    (hp : call.point.Serves header) (hq : ¬ call.point.Requested)
    (hl : call.hosted = true ∨ (now.after? t.retry).isSome) :
    s.Completes t cred context now call.hosted c := by
  have hserves : s.Serves c header := by
    refine ⟨⟨call, hc, hp⟩, fun asked hasked => ?_⟩
    obtain ⟨call', hc', hreq⟩ := hr.requested hasked
    cases hc.symm.trans hc'
    exact hq hreq
  obtain ⟨r, hreturns⟩ := hserves.returns hr hc hl
  refine ⟨r, hreturns.mono ?_ fun x ⟨call, hx, hpoint⟩ => ⟨call, _, hx, hpoint⟩⟩
  intro a ha
  simp only [servedActions, List.mem_cons, List.not_mem_nil, or_false] at ha
  rcases ha with rfl | rfl | rfl | rfl <;> simp [getActions]

end State

theorem Session.completes (h : Session t cred clock s) {p : Pass}
    (hp : Pass.ofToken? cred.token t.lead = some p) (hc : s.calls[c]? = some call)
    (hl : call.hosted = true ∨ ((clock c).after? t.retry).isSome) :
    s.Completes t cred context (clock c) call.hosted c := by
  -- all points but that before the decision
  have hdecided {x : State} {y : Call} (hx : Session t cred clock x) (hy : x.calls[c]? = some y)
      (hsame : y.hosted = call.hosted) (hn : y.point ≠ .deciding) :
      x.Completes t cred context (clock c) call.hosted c := by
    rw [← hsame] at hl ⊢
    obtain ⟨hcancelled, hagrees⟩ := (hx.fixed hp).call c y hy
    cases hq : y.point with
    | deciding => exact absurd hq hn
    | opening f => exact State.completes_opening hy hq hcancelled
    | calling f => exact State.completes_calling hy hq hcancelled
    | asking f => exact State.completes_asking hy hq
    | closing f o exit => exact State.completes_closing hy hq
    | waiting f =>
      rw [hq] at hagrees
      exact hagrees.elim
    | launching f source q =>
      have hserves : y.point.Serves q.header := by
        rw [hq]
        rfl
      refine State.completes_serving hx.reachable hy hserves ?_ hl
      rw [hq]
      exact id
    | settling r exit =>
      rw [hq] at hagrees
      obtain ⟨hexit, hlt⟩ := hagrees
      have hserves : y.point.Serves p.header := by
        rw [← verdict_of_copies hp (.refl p) hlt] at hexit
        rw [hq]
        exact hexit
      refine State.completes_serving hx.reachable hy hserves ?_ hl
      rw [hq]
      exact id
    | done exit => exact State.completes_done hy hq
  by_cases hq : call.point = .deciding
  · have hn : call.style = .blocking → call.cancelled = false :=
      fun _ => ((h.fixed hp).call c call hc).1
    have hstep := State.step_decideCall (t := t) hc hq hn (clock c)
    refine .of_step (by simp [getActions]) hstep ?_
    obtain ⟨call', d, hc', -, -, hled, -⟩ := (State.step_moves hstep).decided
    refine hdecided (h.step (.decide c) hstep) hled ?_ ?_
    · cases hc.symm.trans hc'
      rfl
    · cases d <;> exact nofun
  · exact hdecided h hc rfl hq

/-- What a call of a session is told: it has returned the answer or can do so by itself. -/
structure Session.Tells (t : Timing) (cred : FixedCredential) (clock : CallId → Instant) (s : State)
    (c : CallId) (call : Call) (answer : Except Fault String) : Prop where
  returned (exit : Exit) : call.point = .done exit → exit = .returned answer
  returns : call.hosted = true ∨ ((clock c).after? t.retry).isSome →
    ∃ r, s.Attains t (getActions cred call.context (clock c) c r call.hosted) fun x =>
      Session t cred clock x ∧ ∃ call' : Call, x.calls[c]? = some call' ∧
        call'.point = .done (.returned answer)

/-- Each call of a session is told the header of the token if the clock reads before its expiry, and that
the credential is unavailable if not. -/
theorem Session.honours_expiry (h : Session t cred clock s)
    (hfit : (cred.token.expiry.instant.before? t.lead).isSome) (hc : s.calls[c]? = some call) :
    (clock c < cred.token.expiry.instant →
      Tells t cred clock s c call (.ok cred.token.secret.header)) ∧
    (cred.token.expiry.instant ≤ clock c → Tells t cred clock s c call
      (.error (.credential (.unavailable FixedCredential.expiredText)))) := by
  obtain ⟨renewal, hrenewal⟩ := Option.isSome_iff_exists.mp hfit
  obtain ⟨p, hp⟩ : ∃ p, Pass.ofToken? cred.token t.lead = some p :=
    ⟨_, Option.map_eq_some_iff.mpr ⟨renewal, hrenewal, rfl⟩⟩
  have hreturned {x : State} {y : Call} {exit : Exit} (hx : Session t cred clock x)
      (hy : x.calls[c]? = some y) (he : y.point = .done exit) :
      exit = .returned (cred.verdict (clock c)) := by
    have hagrees := ((hx.fixed hp).call c y hy).2
    rw [he] at hagrees
    exact hagrees
  have htells : Tells t cred clock s c call (cred.verdict (clock c)) := by
    refine ⟨fun exit he => hreturned h hc he, fun hl => ?_⟩
    obtain ⟨r, actions, x, hown, hrun, y, exit, hy, he⟩ := h.completes hp hc hl
    have hx : Session t cred clock x := h.run hrun fun a ha => getActions_fits hl a (hown a ha)
    obtain rfl := hreturned hx hy he
    exact ⟨r, actions, x, hown, hrun, hx, y, hy, he⟩
  constructor
  · intro hlt
    rwa [verdict_of_lt hlt] at htells
  · intro hle
    rwa [verdict_of_le hle] at htells

end Ends

def tenMinutes : FixedCredential := ⟨.ofText "T1" ⟨600000000000⟩⟩

/-- The clock passes the expiry and is set back. -/
def turningClock (c : CallId) : Instant := ⟨[0, 400, 450, 700, 500].getD c 0 * 1000000000⟩

def acquiringRow (c : CallId) : List Action :=
  (getActions tenMinutes {} (turningClock c) c 0 true).take 5

/-- A call is served and starts a renewal, which is answered after the expiry. -/
def renewingRow : List Action :=
  [.decide 1 (turningClock 1), .launch 1, .begin 0, .askRenewal 0,
    .answerRenewal 0 (tenMinutes.answer {} ⟨650000000000⟩) ⟨650000000000⟩, .closeRenewal 0,
    .countRenewal 0]

theorem acquiringRow_fits (c : CallId) :
    ∀ a ∈ acquiringRow c, a.Fits {} tenMinutes turningClock :=
  fun a ha => getActions_fits (.inl rfl) a (List.mem_of_mem_take ha)

theorem renewingRow_fits : ∀ a ∈ renewingRow, a.Fits {} tenMinutes turningClock := by
  intro a ha
  simp only [renewingRow, List.mem_cons, List.not_mem_nil, or_false] at ha
  rcases ha with rfl | rfl | rfl | rfl | rfl | rfl | rfl
  · exact .decide 1
  · exact .launch 1
  · exact .begin 0
  · exact .askRenewal 0
  · exact .answerRenewal 0 {} _ _
  · exact .closeRenewal 0
  · exact .countRenewal 0

theorem Session.get (h : Session t cred clock s) {exits : List Exit} {context : Context}
    (hdone : s.calls.map Call.point = exits.map .done) {actions : List Action}
    (hrun : (s.call context .async false true).run? t actions = some s')
    (ha : ∀ a ∈ actions, a.Fits t cred clock) : Session t cred clock s' := by
  refine (h.call (fun c call hc => ?_) rfl).run hrun ha
  have hmem : call.point ∈ exits.map Call.Point.done := by
    rw [← hdone]
    exact List.mem_map_of_mem (List.mem_of_getElem? hc)
  obtain ⟨exit, -, he⟩ := List.mem_map.mp hmem
  exact ⟨exit, he.symm⟩

/-- Two contexts, a renewal that comes too late, a call behind the expiry and one before it again. -/
theorem honours_expiry_turningClock : ∃ s, Session {} tenMinutes turningClock s ∧
    (tenMinutes.token.expiry.instant.before? ({} : Timing).lead).isSome = true ∧
    s.calls.map Call.point = [.done (.returned (.ok "Bearer T1")), .done (.returned (.ok "Bearer T1")),
      .done (.returned (.ok "Bearer T1")),
      .done (.returned (.error (.credential (.unavailable FixedCredential.expiredText)))),
      .done (.returned (.ok "Bearer T1"))] ∧
    ∀ c call, s.calls[c]? = some call → (turningClock c < tenMinutes.token.expiry.instant →
        Session.Tells {} tenMinutes turningClock s c call (.ok tenMinutes.token.secret.header)) ∧
      (tenMinutes.token.expiry.instant ≤ turningClock c →
        Session.Tells {} tenMinutes turningClock s c call
          (.error (.credential (.unavailable FixedCredential.expiredText)))) := by
  have hfit : (tenMinutes.token.expiry.instant.before? ({} : Timing).lead).isSome = true := by decide
  let ok : Exit := .returned (.ok "Bearer T1")
  let expired : Exit :=
    .returned (.error (.credential (.unavailable FixedCredential.expiredText)))
  obtain ⟨s0, s1, s2, s3, s4, h0, h1, h2, h3, h4, p0, p1, p2, p3, p4⟩ : ∃ s0 s1 s2 s3 s4,
      (State.call {} {} .async false true).run? {} (acquiringRow 0) = some s0 ∧
      (s0.call {} .async false true).run? {} renewingRow = some s1 ∧
      (s1.call { scopes := ["B"] } .async false true).run? {} (acquiringRow 2) = some s2 ∧
      (s2.call { scopes := ["B"] } .async false true).run? {} (acquiringRow 3) = some s3 ∧
      (s3.call { scopes := ["B"] } .async false true).run? {} (acquiringRow 4) = some s4 ∧
      s0.calls.map Call.point = [ok].map .done ∧ s1.calls.map Call.point = [ok, ok].map .done ∧
      s2.calls.map Call.point = [ok, ok, ok].map .done ∧
      s3.calls.map Call.point = [ok, ok, ok, expired].map .done ∧
      s4.calls.map Call.point = [ok, ok, ok, expired, ok].map .done :=
    ⟨_, _, _, _, _, rfl, rfl, rfl, rfl, rfl, rfl, rfl, rfl, rfl, rfl⟩
  have hstart : Session {} tenMinutes turningClock {} := .start
  have hnone : ({} : State).calls.map Call.point = [].map .done := rfl
  have hs0 := hstart.get hnone h0 (acquiringRow_fits 0)
  have hs1 := hs0.get p0 h1 renewingRow_fits
  have hs2 := hs1.get p1 h2 (acquiringRow_fits 2)
  have hs3 := hs2.get p2 h3 (acquiringRow_fits 3)
  have hs4 := hs3.get p3 h4 (acquiringRow_fits 4)
  exact ⟨s4, hs4, hfit, p4, fun c call hc => hs4.honours_expiry hfit hc⟩

end Cache

end BearerTokens
