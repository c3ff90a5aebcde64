import BearerTokens.Proofs.Cache.Runs

/-! # What becomes of each part of a state

Seen from one call, one renewal or one flight, most actions change nothing.  For each of the three a
relation lists how an entry of the later state came about, and for the holding and the history there
is one lemma.  An invariant about the entries of a state is proved by cases on these.
-/

namespace BearerTokens.Cache

def Decision.leads : Decision → Call.Point
  | .acquire f => .opening f
  | .wait f => .waiting f
  | .renew f source pass => .launching f source pass
  | .serve _ pass => .done (.returned (.ok pass.header))

def Decision.counts : Decision → Metrics → Metrics
  | .acquire _, m => m
  | .wait _, m => { m with waits := m.waits + 1 }
  | .renew .., m | .serve .., m => { m with hits := m.hits + 1 }

def Decision.opens? : Decision → Option Mode
  | .acquire _ => some .synchronous
  | .renew _ _ _ => some .background
  | _ => none

namespace State

variable {t : Timing} {s s' : State}

/-- How a call of the state after an action came about. -/
inductive CallFrom (t : Timing) (s s' : State) : Action → CallId → Call → Prop where
  | same {a : Action} {i : CallId} {call : Call} (hi : s.calls[i]? = some call) :
      CallFrom t s s' a i call
  | added {context : Context} {style : Style} {inside hasRuntime : Bool} {p : Call.Point}
      (hp : p = .deciding ∨ ∃ fault, p = .done (.returned (.error (.config fault)))) :
      CallFrom t s s' (.call context style inside hasRuntime) s.calls.length
        { context, style, inside, hasRuntime, point := p }
  | flagged {c : CallId} {call : Call} (hc : s.calls[c]? = some call) :
      CallFrom t s s' (.cancel c) c { call with cancelled := true }
  | decided {c : CallId} {call : Call} {now : Instant} {d : Decision}
      (hc : s.calls[c]? = some call) (hp : call.point = .deciding)
      (hd : s.holding.Decides s.outcome? s.flights.length call.context now s'.holding d)
      (ho : ∀ m, d.opens? = some m →
        s'.flights[s.flights.length]? = some { mode := m, context := call.context })
      (hh : s'.history = s.history ++ [.decided c now d]) :
      CallFrom t s s' (.decide c now) c { call with point := d.leads }
  | walked {a : Action} {c : CallId} {call : Call} {p : Call.Point} {lines : List Happening}
      {tally : Metrics → Metrics} (hc : s.calls[c]? = some call)
      (hw : call.Walks t s c a p lines tally) (hh : s'.history = s.history ++ lines) :
      CallFrom t s s' a c { call with point := p }
  | closed {c : CallId} {call : Call} {f : FlightId} {o : Outcome} {exit : Exit}
      (hc : s.calls[c]? = some call) (hp : call.point = .closing f o exit)
      (hf : s'.flights = s.flights.modify f (·.write o)) :
      CallFrom t s s' (.close c) c { call with point := .done exit }
  | launched {c : CallId} {call : Call} {f source : FlightId} {pass : Pass} {renewal : Renewal}
      {a : Action} {p : Renewal.Point} {q : Call.Point} {lines : List Happening}
      (hc : s.calls[c]? = some call) (hp : call.point = .launching f source pass)
      (hr : renewal = { context := call.context, previous := pass, source, flight := f })
      (hs : renewal.Starts t c call s.renewals.length a p q lines)
      (hy : s'.renewals[s.renewals.length]? = some { renewal with point := p }) :
      CallFrom t s s' a c { call with point := q }

inductive RenewalFrom (t : Timing) (s s' : State) : Action → RenewalId → Renewal → Prop where
  | same {a : Action} {i : RenewalId} {renewal : Renewal} (hi : s.renewals[i]? = some renewal) :
      RenewalFrom t s s' a i renewal
  | started {c : CallId} {call : Call} {f source : FlightId} {pass : Pass} {renewal : Renewal}
      {a : Action} {p : Renewal.Point} {q : Call.Point} {lines : List Happening}
      (hc : s.calls[c]? = some call) (hp : call.point = .launching f source pass)
      (hr : renewal = { context := call.context, previous := pass, source, flight := f })
      (hs : renewal.Starts t c call s.renewals.length a p q lines)
      (hx : s'.calls[c]? = some { call with point := q }) (hh : s'.history = s.history ++ lines) :
      RenewalFrom t s s' a s.renewals.length { renewal with point := p }
  | walked {a : Action} {r : RenewalId} {renewal : Renewal} {p : Renewal.Point}
      {lines : List Happening} (hr : s.renewals[r]? = some renewal)
      (hw : renewal.Walks t r a p lines) (hh : s'.history = s.history ++ lines) :
      RenewalFrom t s s' a r { renewal with point := p }
  | closed {r : RenewalId} {renewal : Renewal} {o : Outcome} {ending : Ending}
      (hr : s.renewals[r]? = some renewal) (hp : renewal.point = .closing o ending)
      (hf : s'.flights = s.flights.modify renewal.flight (·.write o)) :
      RenewalFrom t s s' (.closeRenewal r) r { renewal with point := .written ending }
  | counted {r : RenewalId} {renewal : Renewal} {ending : Ending}
      (hr : s.renewals[r]? = some renewal) (hp : renewal.point = .written ending) :
      RenewalFrom t s s' (.countRenewal r) r { renewal with point := .settled ending }

inductive FlightFrom (s : State) : Action → FlightId → Flight → Prop where
  | same {a : Action} {i : FlightId} {flight : Flight} (hi : s.flights[i]? = some flight) :
      FlightFrom s a i flight
  | opened {c : CallId} {call : Call} {now : Instant} {holding : Holding} {d : Decision} {m : Mode}
      (hc : s.calls[c]? = some call) (hp : call.point = .deciding)
      (hd : s.holding.Decides s.outcome? s.flights.length call.context now holding d)
      (hm : d.opens? = some m) :
      FlightFrom s (.decide c now) s.flights.length { mode := m, context := call.context }
  | closed {c : CallId} {call : Call} {f : FlightId} {o : Outcome} {exit : Exit} {flight : Flight}
      (hc : s.calls[c]? = some call) (hp : call.point = .closing f o exit)
      (hf : s.flights[f]? = some flight) : FlightFrom s (.close c) f (flight.write o)
  | filled {r : RenewalId} {renewal : Renewal} {o : Outcome} {ending : Ending} {flight : Flight}
      (hr : s.renewals[r]? = some renewal) (hp : renewal.point = .closing o ending)
      (hf : s.flights[renewal.flight]? = some flight) :
      FlightFrom s (.closeRenewal r) renewal.flight (flight.write o)

inductive HoldingFrom (s s' : State) : Action → Prop where
  | same {a : Action} (hh : s'.holding = s.holding) : HoldingFrom s s' a
  | decided {c : CallId} {call : Call} {now : Instant} {d : Decision}
      (hc : s.calls[c]? = some call) (hp : call.point = .deciding)
      (hd : s.holding.Decides s.outcome? s.flights.length call.context now s'.holding d)
      (ho : ∀ m, d.opens? = some m →
        s'.flights[s.flights.length]? = some { mode := m, context := call.context })
      (hl : s'.calls[c]? = some { call with point := d.leads }) :
      HoldingFrom s s' (.decide c now)

inductive LineFrom (t : Timing) (s s' : State) : Action → Happening → Prop where
  | same {a : Action} {line : Happening} (hl : line ∈ s.history) : LineFrom t s s' a line
  | decided {c : CallId} {call : Call} {now : Instant} {holding : Holding} {d : Decision}
      (hc : s.calls[c]? = some call) (hp : call.point = .deciding)
      (hd : s.holding.Decides s.outcome? s.flights.length call.context now holding d)
      (hc' : s'.calls[c]? = some { call with point := d.leads })
      (ho : ∀ m, d.opens? = some m →
        s'.flights[s.flights.length]? = some { mode := m, context := call.context }) :
      LineFrom t s s' (.decide c now) (.decided c now d)
  | walked {a : Action} {c : CallId} {call : Call} {p : Call.Point} {lines : List Happening}
      {tally : Metrics → Metrics} {line : Happening} (hc : s.calls[c]? = some call)
      (hw : call.Walks t s c a p lines tally) (hl : line ∈ lines)
      (hc' : s'.calls[c]? = some { call with point := p }) : LineFrom t s s' a line
  | started {c : CallId} {call : Call} {f source : FlightId} {pass : Pass} {renewal : Renewal}
      {a : Action} {p : Renewal.Point} {q : Call.Point} {lines : List Happening}
      {line : Happening} (hc : s.calls[c]? = some call) (hp : call.point = .launching f source pass)
      (hr : renewal = { context := call.context, previous := pass, source, flight := f })
      (hs : renewal.Starts t c call s.renewals.length a p q lines) (hl : line ∈ lines)
      (hy : s'.renewals[s.renewals.length]? = some { renewal with point := p }) :
      LineFrom t s s' a line
  | walkedRenewal {a : Action} {r : RenewalId} {renewal : Renewal} {p : Renewal.Point}
      {lines : List Happening} {line : Happening} (hr : s.renewals[r]? = some renewal)
      (hw : renewal.Walks t r a p lines) (hl : line ∈ lines)
      (hr' : s'.renewals[r]? = some { renewal with point := p }) : LineFrom t s s' a line
  | wrote {a : Action} {f : FlightId} {o : Outcome} : LineFrom t s s' a (.wrote f o)
  | reported {a : Action} {entry : Entry} : LineFrom t s s' a (.reported entry)

theorem moveCall_self {c : CallId} {call : Call} {p : Call.Point} (hc : s.calls[c]? = some call) :
    (s.moveCall c p).calls[c]? = some { call with point := p } := by simp [moveCall, hc]

theorem moveRenewal_self {r : RenewalId} {renewal : Renewal} {p : Renewal.Point}
    (hr : s.renewals[r]? = some renewal) :
    (s.moveRenewal r p).renewals[r]? = some { renewal with point := p } := by simp [moveRenewal, hr]

theorem moveCall_calls {c i : CallId} {p : Call.Point} {call : Call}
    (h : (s.moveCall c p).calls[i]? = some call) : s.calls[i]? = some call ∨
      ∃ before, i = c ∧ s.calls[c]? = some before ∧ call = { before with point := p } := by
  by_cases hi : i = c
  · subst hi
    obtain ⟨before, hb, he⟩ :
        ∃ before, s.calls[i]? = some before ∧ { before with point := p } = call := by
      simpa [moveCall] using h
    exact .inr ⟨before, rfl, hb, he.symm⟩
  · exact .inl (by simpa [moveCall, List.getElem?_modify_ne _ _ (Ne.symm hi)] using h)

theorem moveRenewal_renewals {r i : RenewalId} {p : Renewal.Point} {renewal : Renewal}
    (h : (s.moveRenewal r p).renewals[i]? = some renewal) : s.renewals[i]? = some renewal ∨
      ∃ before, i = r ∧ s.renewals[r]? = some before ∧ renewal = { before with point := p } := by
  by_cases hi : i = r
  · subst hi
    obtain ⟨before, hb, he⟩ :
        ∃ before, s.renewals[i]? = some before ∧ { before with point := p } = renewal := by
      simpa [moveRenewal] using h
    exact .inr ⟨before, rfl, hb, he.symm⟩
  · exact .inl (by simpa [moveRenewal, List.getElem?_modify_ne _ _ (Ne.symm hi)] using h)

theorem follow_calls (style : Style) (c : CallId) (context : Context) (d : Decision) :
    (s.follow style c context d).calls = (s.moveCall c d.leads).calls := by
  cases style <;> cases d <;> rfl

theorem follow_renewals (style : Style) (c : CallId) (context : Context) (d : Decision) :
    (s.follow style c context d).renewals = s.renewals := by
  cases style <;> cases d <;> rfl

theorem follow_metrics (style : Style) (c : CallId) (context : Context) (d : Decision) :
    (s.follow style c context d).metrics = d.counts s.metrics := by
  cases style <;> cases d <;> rfl

theorem follow_holding (style : Style) (c : CallId) (context : Context) (d : Decision) :
    (s.follow style c context d).holding = s.holding := by
  cases style <;> cases d <;> rfl

theorem follow_history (style : Style) (c : CallId) (context : Context) (d : Decision) :
    (s.follow style c context d).history = s.history := by
  cases style <;> cases d <;> rfl

theorem follow_flights (style : Style) (c : CallId) (context : Context) (d : Decision) :
    (s.follow style c context d).flights =
      s.flights ++ (d.opens?.map fun m => { mode := m, context := context }).toList := by
  cases style <;> cases d <;>
    simp [follow, followTask, followThread, Decision.opens?, moveCall, count, openFlight]

theorem follow_opened {style : Style} {c : CallId} {context : Context} {d : Decision} {m : Mode}
    (hm : d.opens? = some m) : (s.follow style c context d).flights[s.flights.length]? =
      some { mode := m, context := context } := by
  simp [follow_flights, hm]

theorem follow_led {style : Style} {c : CallId} {call : Call} {context : Context} {d : Decision}
    (hc : s.calls[c]? = some call) :
    (s.follow style c context d).calls[c]? = some { call with point := d.leads } := by
  rw [follow_calls, moveCall_self hc]

theorem countEnding_eq (ending : Ending) : (s.countEnding ending).calls = s.calls ∧
    (s.countEnding ending).renewals = s.renewals ∧ (s.countEnding ending).flights = s.flights ∧
    (s.countEnding ending).holding = s.holding := by
  cases ending <;> exact ⟨rfl, rfl, rfl, rfl⟩

theorem Moves.callFrom {a : Action} (h : Moves t s a s') {i : CallId} {call : Call}
    (hi : s'.calls[i]? = some call) : CallFrom t s s' a i call := by
  cases h with
  | @call context style inside hasRuntime =>
    simp only [State.call, getElem?_concat] at hi
    split at hi
    next he =>
      cases hi
      subst he
      refine .added ?_
      cases style.refusal? inside hasRuntime with
      | none => exact .inl rfl
      | some fault => exact .inr ⟨fault, rfl⟩
    next => exact .same hi
  | @cancel c =>
    simp only [State.cancel, List.getElem?_modify] at hi
    obtain ⟨before, hb, rfl⟩ := Option.map_eq_some_iff.mp hi
    split
    next he => subst he; exact .flagged hb
    next => exact .same hb
  | decide hc hp hd =>
    rw [follow_calls] at hi
    rcases moveCall_calls hi with hi | ⟨before, rfl, hb, rfl⟩
    · exact .same hi
    · cases hc.symm.trans hb
      refine .decided hc hp (by rw [follow_holding]; exact hd) (fun m hm => follow_opened hm) ?_
      rw [follow_history, record]
  | walk hc hw =>
    rcases moveCall_calls hi with hi | ⟨before, rfl, hb, rfl⟩
    · exact .same hi
    · cases hc.symm.trans hb; exact .walked hc hw rfl
  | close hc hp =>
    rcases moveCall_calls hi with hi | ⟨before, rfl, hb, rfl⟩
    · exact .same hi
    · cases hc.symm.trans hb; exact .closed hc hp rfl
  | launch hc hp hr hs =>
    rcases moveCall_calls hi with hi | ⟨before, rfl, hb, rfl⟩
    · exact .same hi
    · cases hc.symm.trans hb
      exact .launched hc hp hr hs (by simp [moveCall, count, record])
  | walkRenewal => exact .same hi
  | closeRenewal => exact .same hi
  | countRenewal => exact .same ((countEnding_eq _).1 ▸ hi)

theorem Moves.renewalFrom {a : Action} (h : Moves t s a s') {i : RenewalId} {renewal : Renewal}
    (hi : s'.renewals[i]? = some renewal) : RenewalFrom t s s' a i renewal := by
  cases h with
  | call => exact .same hi
  | cancel => exact .same hi
  | decide => rw [follow_renewals] at hi; exact .same hi
  | walk => exact .same hi
  | close => exact .same hi
  | @launch _ c call f source pass renewal' p q lines hc hp hr hs =>
    change (s.renewals ++ [{ renewal' with point := p }])[i]? = some renewal at hi
    rw [getElem?_concat] at hi
    split at hi
    next he => cases hi; subst he; exact .started hc hp hr hs (moveCall_self hc) rfl
    next => exact .same hi
  | walkRenewal hr hw =>
    rcases moveRenewal_renewals hi with hi | ⟨before, rfl, hb, rfl⟩
    · exact .same hi
    · cases hr.symm.trans hb; exact .walked hr hw rfl
  | closeRenewal hr hp =>
    rcases moveRenewal_renewals hi with hi | ⟨before, rfl, hb, rfl⟩
    · exact .same hi
    · cases hr.symm.trans hb; exact .closed hr hp rfl
  | countRenewal hr hp =>
    rcases moveRenewal_renewals hi with hi | ⟨before, rfl, hb, rfl⟩
    · exact .same ((countEnding_eq _).2.1 ▸ hi)
    · rw [(countEnding_eq _).2.1] at hb
      cases hr.symm.trans hb
      exact .counted hr hp

/-- A renewal was there before an action but for its point, or a call that launches starts it now. -/
theorem Moves.renewal_before_or {a : Action} (h : Moves t s a s') {r : RenewalId}
    {renewal : Renewal} (hr : s'.renewals[r]? = some renewal) :
    (∃ p, s.renewals[r]? = some { renewal with point := p }) ∨
      ∃ (c : CallId) (call : Call) (q : Call.Point), r = s.renewals.length ∧
        s.calls[c]? = some call ∧
        call.point = .launching renewal.flight renewal.source renewal.previous ∧
        s'.calls[c]? = some { call with point := q } ∧
        ∀ f source pass, q ≠ .launching f source pass := by
  cases h.renewalFrom hr with
  | same hi => exact .inl ⟨renewal.point, hi⟩
  | started hc hp hrenewal hs hx =>
    subst hrenewal
    exact .inr ⟨_, _, _, rfl, hc, hp, hx, fun _ _ _ hq => by cases hs <;> cases hq⟩
  | @walked _ _ before _ _ hi => exact .inl ⟨before.point, hi⟩
  | @closed _ before _ _ hi => exact .inl ⟨before.point, hi⟩
  | @counted _ before _ hi => exact .inl ⟨before.point, hi⟩

theorem writeFlight_flights {f i : FlightId} {o : Outcome} {flight : Flight}
    (h : (s.writeFlight f o).flights[i]? = some flight) : s.flights[i]? = some flight ∨
      ∃ before, i = f ∧ s.flights[f]? = some before ∧ flight = before.write o := by
  by_cases hi : i = f
  · subst hi
    obtain ⟨before, hb, he⟩ : ∃ before, s.flights[i]? = some before ∧ before.write o = flight := by
      simpa [writeFlight, record] using h
    exact .inr ⟨before, rfl, hb, he.symm⟩
  · exact .inl (by simpa [writeFlight, record, List.getElem?_modify_ne _ _ (Ne.symm hi)] using h)

theorem Moves.flightFrom {a : Action} (h : Moves t s a s') {i : FlightId} {flight : Flight}
    (hi : s'.flights[i]? = some flight) : FlightFrom s a i flight := by
  cases h with
  | decide hc hp hd =>
    rw [follow_flights] at hi
    cases hm : (_ : Decision).opens? with
    | none => rw [hm] at hi; exact .same (by simpa [record] using hi)
    | some m =>
      simp only [hm, Option.map_some, Option.toList_some, record, getElem?_concat] at hi
      split at hi
      next he => cases hi; subst he; exact .opened hc hp hd hm
      next => exact .same hi
  | close hc hp =>
    rcases writeFlight_flights hi with hi | ⟨before, rfl, hb, rfl⟩
    · exact .same hi
    · exact .closed hc hp hb
  | closeRenewal hr hp =>
    rcases writeFlight_flights hi with hi | ⟨before, rfl, hb, rfl⟩
    · exact .same hi
    · exact .filled hr hp hb
  | countRenewal => exact .same ((countEnding_eq _).2.2.1 ▸ hi)
  | _ => exact .same hi

theorem Moves.lineFrom {a : Action} (h : Moves t s a s') {line : Happening}
    (hl : line ∈ s'.history) : LineFrom t s s' a line := by
  cases h with
  | call | cancel => exact .same hl
  | decide hc hp hd =>
    rw [follow_history] at hl
    rcases List.mem_append.mp hl with hl | hl
    · exact .same hl
    · obtain rfl := List.mem_singleton.mp hl
      exact .decided hc hp hd (follow_led hc) fun m hm => follow_opened hm
  | walk hc hw =>
    rcases List.mem_append.mp hl with hl | hl
    · exact .same hl
    · exact .walked hc hw hl (moveCall_self hc)
  | close | closeRenewal =>
    rcases List.mem_append.mp hl with hl | hl
    · exact .same hl
    · obtain rfl := List.mem_singleton.mp hl
      exact .wrote
  | launch hc hp hr hs =>
    rcases List.mem_append.mp hl with hl | hl
    · exact .same hl
    · exact .started hc hp hr hs hl (by simp [moveCall, count, record])
  | walkRenewal hr hw =>
    rcases List.mem_append.mp hl with hl | hl
    · exact .same hl
    · exact .walkedRenewal hr hw hl (moveRenewal_self hr)
  | @countRenewal r renewal ending =>
    have hh : ∃ entry, (s.countEnding ending).history = s.history ++ [.reported entry] := by
      cases ending <;> exact ⟨_, rfl⟩
    obtain ⟨entry, hh⟩ := hh
    change line ∈ (s.countEnding ending).history at hl
    rw [hh] at hl
    rcases List.mem_append.mp hl with hl | hl
    · exact .same hl
    · obtain rfl := List.mem_singleton.mp hl
      exact .reported

/-- What a call decides, seen from the state after. -/
theorem Moves.decided {c : CallId} {now : Instant} (h : Moves t s (.decide c now) s') :
    ∃ call d, s.calls[c]? = some call ∧ call.point = .deciding ∧
      s.holding.Decides s.outcome? s.flights.length call.context now s'.holding d ∧
      s'.calls[c]? = some { call with point := d.leads } ∧
      s'.history = s.history ++ [.decided c now d] := by
  cases h with
  | decide hc hp hd =>
    refine ⟨_, _, hc, hp, by rw [follow_holding]; exact hd, follow_led hc, ?_⟩
    rw [follow_history, record]
  | walk _ hw => cases hw
  | launch _ _ _ hs => cases hs
  | walkRenewal _ hw => cases hw

/-- Only a decision changes what the cache holds. -/
theorem Moves.holdingFrom {a : Action} (h : Moves t s a s') : HoldingFrom s s' a := by
  cases h with
  | decide hc hp hd =>
    exact .decided hc hp (by rw [follow_holding]; exact hd) (fun m hm => follow_opened hm)
      (follow_led hc)
  | countRenewal => exact .same (countEnding_eq _).2.2.2
  | _ => exact .same rfl

/-! ## What calls have returned -/

/-- Nothing leads on from the end of a call. -/
theorem walks_not_done {c : CallId} {call : Call} {a : Action} {p : Call.Point}
    {lines : List Happening} {tally : Metrics → Metrics} {exit : Exit}
    (hw : call.Walks t s c a p lines tally) : call.point ≠ .done exit := by
  intro hp
  cases hw with
  | enter hq | ask hq | answered hq | unfit hq | refused hq | crash hq | withdrawEarly _ _ hq
  | withdrawWaiting _ hq | again hq | share hq | finish hq | drop _ hq => cases hp.symm.trans hq
  | withdraw _ hq => rcases hq with hq | hq <;> cases hp.symm.trans hq
  | dropIdle _ hq => rcases hq with hq | ⟨f, hq⟩ <;> cases hp.symm.trans hq

/-- Calls keep their contexts, and one that has come to its end stays there. -/
def Retains (s s' : State) : Prop := ∀ (c : CallId) (call : Call), s.calls[c]? = some call →
  ∃ call' : Call, s'.calls[c]? = some call' ∧ call'.context = call.context ∧
    ∀ exit, call.point = .done exit → call'.point = .done exit

theorem Retains.refl (s : State) : s.Retains s :=
  fun _ call hc => ⟨call, hc, rfl, fun _ hp => hp⟩

theorem Retains.trans {s s' s'' : State} (h : s.Retains s') (k : s'.Retains s'') :
    s.Retains s'' := by
  intro c call hc
  obtain ⟨call', hc', hx', hp'⟩ := h c call hc
  obtain ⟨call'', hc'', hx'', hp''⟩ := k c call' hc'
  exact ⟨call'', hc'', hx''.trans hx', fun exit hp => hp'' exit (hp' exit hp)⟩

theorem Moves.retains {a : Action} (h : Moves t s a s') : s.Retains s' := by
  intro c call hc
  obtain ⟨call', hc', hx, -⟩ := h.extends.call c call hc
  refine ⟨call', hc', hx, fun exit hp => ?_⟩
  cases h.callFrom hc' with
  | same hi | flagged hi =>
    cases hc.symm.trans hi
    exact hp
  | added => simp at hc
  | decided hi hq | closed hi hq | launched hi hq =>
    cases hc.symm.trans hi
    cases hp.symm.trans hq
  | walked hi hw =>
    cases hc.symm.trans hi
    exact absurd hp (walks_not_done hw)

end State

end BearerTokens.Cache
