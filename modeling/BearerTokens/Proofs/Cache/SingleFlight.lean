import BearerTokens.Proofs.Cache.Held
import BearerTokens.Proofs.Cache.Requests

/-! # One request for many calls

A flight without an outcome has exactly one owner, which keeps it and can bring it to an outcome by
itself.  Calls for an equivalent context that find the flight open wait for it and make no request of
their own.  When all contexts are equivalent, no two calls acquire at the same time.
-/

namespace BearerTokens.Cache

variable {t : Timing} {s s' : State} {c : CallId} {call : Call} {f : FlightId}

/-! ## Owners -/

/-- A call that acquires keeps its flight through any row of actions that leaves the flight open. -/
theorem Reachable.run_drives (hr : Reachable t s) {q : Requester}
    (hq : s.drives? q = some (.synchronous, f)) {actions : List Action}
    (h : s.run? t actions = some s') (ho : s'.outcome? f = none) :
    s'.drives? q = some (.synchronous, f) := by
  have hkeep : Reachable t s' ∧
      (s'.drives? q = some (.synchronous, f) ∨ ∃ o, s'.outcome? f = some o) := by
    refine State.run_induction (P := fun x => Reachable t x ∧
      (x.drives? q = some (.synchronous, f) ∨ ∃ o, x.outcome? f = some o)) h ⟨hr, .inl hq⟩ ?_
    intro a x y _ hstep ⟨hx, hk⟩
    have hm := State.step_moves hstep
    refine ⟨hx.step hstep, ?_⟩
    rcases hk with hk | ⟨o, hxo⟩
    · exact hm.shifts.keeps hx.matched hk
    · exact .inr ⟨o, hm.extends.outcome hxo⟩
  rcases hkeep.2 with hk | ⟨o, hso⟩
  · exact hk
  · rw [ho] at hso
    cases hso

def ownActions (c : CallId) (answer : Answer) : List Action :=
  [.enter c, .ask c, .answer c answer, .withdraw c, .close c]

namespace State

/-- The call can bring the flight to an outcome, and nobody else has to act. -/
def Settles (t : Timing) (s : State) (c : CallId) (answer : Answer) (f : FlightId) : Prop :=
  s.Attains t (ownActions c answer) fun x => x.outcome? f ≠ none

variable {answer : Answer}

theorem settles_closing {o : Outcome} {exit : Exit} (hc : s.calls[c]? = some call)
    (hp : call.point = .closing f o exit) (hf : f < s.flights.length) : s.Settles t c answer f := by
  refine .of_step (by simp [ownActions]) (step_closeCall hc hp) (.now ?_)
  have hflight : s.flights[f]? = some s.flights[f] := List.getElem?_eq_getElem hf
  simp [outcome?, writeFlight, record, moveCall, hflight, Flight.write]

theorem settles_of_walk {a : Action} {p : Call.Point} {lines : List Happening}
    {tally : Metrics → Metrics} (hw : call.Walks t s c a p lines tally)
    (ha : a ∈ ownActions c answer) (hc : s.calls[c]? = some call)
    (h : ∀ x : State, x.flights = s.flights → x.calls[c]? = some { call with point := p } →
      x.Settles t c answer f) : s.Settles t c answer f :=
  .of_step ha (hw.step hc) (h _ rfl (moveCall_self (by exact hc)))

theorem settles_asking (hc : s.calls[c]? = some call) (hp : call.point = .asking f)
    (hf : f < s.flights.length) : s.Settles t c answer f := by
  have ha : Action.answer c answer ∈ ownActions c answer := by simp [ownActions]
  cases answer with
  | error fault =>
    exact settles_of_walk (.refused hp) ha hc fun x hx hxc => settles_closing hxc rfl (hx ▸ hf)
  | ok token =>
    cases ht : Pass.ofToken? token t.lead with
    | some pass =>
      exact settles_of_walk (.answered hp ht) ha hc fun x hx hxc => settles_closing hxc rfl (hx ▸ hf)
    | none => exact settles_of_walk (.unfit hp ht) ha hc fun x hx hxc => settles_closing hxc rfl (hx ▸ hf)

theorem settles_calling (hc : s.calls[c]? = some call) (hp : call.point = .calling f)
    (hf : f < s.flights.length) : s.Settles t c answer f := by
  cases hn : call.cancelled with
  | true =>
    have ha : Action.withdraw c ∈ ownActions c answer := by simp [ownActions]
    exact settles_of_walk (.withdraw hn (.inl hp)) ha hc fun x hx hxc => settles_closing hxc rfl (hx ▸ hf)
  | false =>
    have ha : Action.ask c ∈ ownActions c answer := by simp [ownActions]
    exact settles_of_walk (.ask hp hn) ha hc fun x hx hxc => settles_asking hxc rfl (hx ▸ hf)

theorem settles_opening (hc : s.calls[c]? = some call) (hp : call.point = .opening f)
    (hf : f < s.flights.length) : s.Settles t c answer f := by
  have ha : Action.enter c ∈ ownActions c answer := by simp [ownActions]
  exact settles_of_walk (.enter hp) ha hc fun x hx hxc => settles_calling hxc rfl (hx ▸ hf)

/-- Whatever the credential answers, an owner can bring its flight to an outcome by itself. -/
theorem Matched.settles (hs : s.Matched) (hq : s.drives? (.call c) = some (.synchronous, f)) :
    s.Settles t c answer f := by
  have hf := hs.lt_length hq
  obtain ⟨call, hc, hd⟩ := Option.bind_eq_some_iff.mp hq
  cases hp : call.point with
  | opening g =>
    obtain rfl : g = f := by simpa [hp, Call.Point.drives?] using hd
    exact settles_opening hc hp hf
  | calling g =>
    obtain rfl : g = f := by simpa [hp, Call.Point.drives?] using hd
    exact settles_calling hc hp hf
  | asking g =>
    obtain rfl : g = f := by simpa [hp, Call.Point.drives?] using hd
    exact settles_asking hc hp hf
  | closing g o exit =>
    obtain rfl : g = f := by simpa [hp, Call.Point.drives?] using hd
    exact settles_closing hc hp hf
  | _ => simp [hp, Call.Point.drives?] at hd

/-- An open flight of a call has exactly one owner. -/
theorem Matched.owner (hs : s.Matched) {flight : Flight} (hf : s.flights[f]? = some flight)
    (hm : flight.mode = .synchronous) :
    flight.outcome = none ↔ ∃! c, s.drives? (.call c) = some (.synchronous, f) := by
  constructor
  · intro ho
    obtain ⟨q, hq⟩ := hs.driven f flight hf ho
    rw [hm] at hq
    cases q with
    | call c =>
      refine ⟨c, hq, fun i hi => ?_⟩
      exact Requester.call.inj (hs.unique _ _ _ _ f hi hq)
    | renewal r =>
      obtain ⟨renewal, -, hd⟩ := Option.bind_eq_some_iff.mp hq
      cases hp : renewal.point <;> simp [Renewal.drives?, hp] at hd
  · rintro ⟨c, hc, -⟩
    obtain ⟨flight', hf', -, ho⟩ := hs.pending _ _ f hc
    cases hf.symm.trans hf'
    exact ho

/-! ## Waiting calls -/

/-- The call waits on the flight, is done, or is about to decide again since the flight was given
up; and it has made no request. -/
structure Waits (s : State) (c : CallId) (f : FlightId) : Prop where
  point : ∃ call, s.calls[c]? = some call ∧ (call.point = .waiting f ∨
    (call.point = .deciding ∧ s.outcome? f = some .cancelled) ∨ ∃ exit, call.point = .done exit)
  unasked (context : Context) : Happening.asked (.call c) context ∉ s.history

/-- A waiting call stays one until it decides again, and then the flight was given up. -/
theorem Waits.step {a : Action} (hw : s.Waits c f) (hm : Moves t s a s') :
    s'.Waits c f ∨ s.outcome? f = some .cancelled ∧ ∃ now, a = .decide c now := by
  obtain ⟨⟨call, hc, hp⟩, hn⟩ := hw
  obtain ⟨call', hc', -⟩ := hm.extends.call c call hc
  have hmono : s.outcome? f = some .cancelled → s'.outcome? f = some .cancelled :=
    hm.extends.outcome
  -- either the call decides, or it is at one of the three points again
  have hpoint : (call'.point = .waiting f ∨ (call'.point = .deciding ∧
      s'.outcome? f = some .cancelled) ∨ ∃ exit, call'.point = .done exit) ∨
      s.outcome? f = some .cancelled ∧ ∃ now, a = .decide c now := by
    cases hm.callFrom hc' with
    | same hi =>
      cases hc.symm.trans hi
      exact .inl (hp.imp_right (Or.imp_left (And.imp_right hmono)))
    | added => simp at hc
    | flagged hi =>
      cases hc.symm.trans hi
      exact .inl (hp.imp_right (Or.imp_left (And.imp_right hmono)))
    | @decided _ _ now _ hi hd =>
      cases hc.symm.trans hi
      rw [hd] at hp
      rcases hp with hp | ⟨-, ho⟩ | ⟨exit, hp⟩
      · cases hp
      · exact .inr ⟨ho, now, rfl⟩
      · cases hp
    | walked hi hwalk =>
      cases hc.symm.trans hi
      left
      cases hwalk with
      | withdrawEarly | withdrawWaiting | share | finish | dropIdle => exact .inr (.inr ⟨_, rfl⟩)
      | again hq ho =>
        rw [hq] at hp
        obtain rfl : _ = f := by simpa using hp
        exact .inr (.inl ⟨rfl, hmono ho⟩)
      | withdraw _ hq => rcases hq with hq | hq <;> simp [hq] at hp
      | enter hq | ask hq | answered hq | unfit hq | refused hq | crash hq | drop _ hq =>
        simp [hq] at hp
    | closed hi hq => cases hc.symm.trans hi; simp [hq] at hp
    | launched hi hq => cases hc.symm.trans hi; simp [hq] at hp
  rcases hpoint with hp' | hd
  · refine .inl ⟨⟨call', hc', hp'⟩, fun context hl => ?_⟩
    rcases hm.asked hl with hl | ⟨-, asker, g, hasker, hq⟩
    · exact hn context hl
    · cases hc'.symm.trans hasker
      rw [hq] at hp'
      simp at hp'
  · exact .inr hd

/-- Along a row of actions a waiting call makes no request, unless it decides again after the flight
was given up. -/
theorem Waits.run (hw : s.Waits c f) {actions : List Action} (h : s.run? t actions = some s') :
    (∀ context, Happening.asked (.call c) context ∉ s'.history) ∨
      s'.outcome? f = some .cancelled ∧ ∃ now, .decide c now ∈ actions := by
  have hend : s'.Waits c f ∨ s'.outcome? f = some .cancelled ∧ ∃ now, .decide c now ∈ actions := by
    refine run_induction (P := fun x => x.Waits c f ∨
      x.outcome? f = some .cancelled ∧ ∃ now, .decide c now ∈ actions) h (.inl hw) ?_
    intro a x y ha hstep hx
    have hm := step_moves hstep
    rcases hx with hx | ⟨ho, hd⟩
    · rcases hx.step hm with hy | ⟨ho, now, rfl⟩
      · exact .inl hy
      · exact .inr ⟨hm.extends.outcome ho, now, ha⟩
    · exact .inr ⟨hm.extends.outcome ho, hd⟩
  exact hend.imp_left Waits.unasked

/-! ## Calls for one context -/

def Uniform (s : State) : Prop :=
  ∀ (i j : CallId) (x y : Call), s.calls[i]? = some x → s.calls[j]? = some y →
    x.context.Equivalent y.context

theorem Uniform.of_extends (hu : s'.Uniform) (he : Extends s s') : s.Uniform := by
  intro i j x y hx hy
  obtain ⟨x', hx', hcx, -⟩ := he.call i x hx
  obtain ⟨y', hy', hcy, -⟩ := he.call j y hy
  have heq := hu i j x' y' hx' hy'
  rwa [hcx, hcy] at heq

/-- An open flight that is held for equivalent calls stays current. -/
theorem Uniform.current_eq {a : Action} (hu : s.Uniform) (hs : s.holding.Sound s)
    (hm : Moves t s a s') (hcur : s.holding.current = some f) (ho : s.outcome? f = none) :
    s'.holding.current = some f := by
  cases hm.holdingFrom with
  | same hh => rw [hh, hcur]
  | @decided c call now d hc hp hd =>
    have hopen : ∀ {g : FlightId} {o : Outcome}, s.holding.current = some g →
        s.outcome? g = some o → False := by
      intro g o hg hgo
      cases hcur.symm.trans hg
      rw [ho] at hgo
      cases hgo
    obtain ⟨stored, hstored, -⟩ := hs.current f hcur
    obtain ⟨-, i, asker, hi, rfl⟩ := hs.stored stored hstored
    generalize hh' : s'.holding = h' at hd
    cases hd with
    | anew hn => exact absurd (hu i c asker call hi hc) (hn _ f hstored hcur)
    | wait => exact hcur
    | lapsed _ _ hf hfo => exact (hopen hf hfo).elim
    | renew _ _ hf hfo => exact (hopen hf hfo).elim
    | serve _ _ hf hfo => exact (hopen hf hfo).elim

end State

/-- When all contexts are equivalent, a call that acquires does so for the current flight. -/
theorem Reachable.drives_current (hr : Reachable t s) (hu : s.Uniform)
    (hq : s.drives? (.call c) = some (.synchronous, f)) : s.holding.current = some f := by
  refine hr.induct (P := fun x => x.Uniform → ∀ c f,
    x.drives? (.call c) = some (.synchronous, f) → x.holding.current = some f)
    (fun _ c f h => by simp [State.drives?] at h) (fun a x y hx hm ih => ?_) hu c f hq
  intro huy c f hq
  have hux := huy.of_extends hm.extends
  have hkeep : x.drives? (.call c) = some (.synchronous, f) → y.holding.current = some f := by
    intro hxq
    obtain ⟨flight, hfl, -, ho⟩ := hx.matched.pending _ _ f hxq
    exact hux.current_eq hx.sound hm (ih hux c f hxq) (by simp [State.outcome?, hfl, ho])
  obtain ⟨call, hc, hd⟩ := Option.bind_eq_some_iff.mp hq
  cases hm.callFrom hc with
  | same hi => exact hkeep (by simp [State.drives?, hi, hd])
  | added hp => rcases hp with rfl | ⟨fault, rfl⟩ <;> cases hd
  | flagged hi => exact hkeep (by simpa [State.drives?, hi] using hd)
  | @decided _ _ _ d hi hp hdec =>
    generalize y.holding = h' at hdec ⊢
    cases hdec with
    | anew | lapsed =>
      obtain rfl : x.flights.length = f := by simpa [Decision.leads, Call.Point.drives?] using hd
      rfl
    | wait | renew | serve => simp [Decision.leads, Call.Point.drives?] at hd
  | walked hi hw => exact hkeep (by rw [State.drives?_call hi, ← hw.drives_eq]; exact hd)
  | closed => cases hd
  | launched _ _ _ hs => cases hs <;> cases hd

/-! ## Single flight -/

namespace State

structure Owns (t : Timing) (s : State) (o : CallId) (f : FlightId) : Prop where
  drives : s.drives? (.call o) = some (.synchronous, f)
  keeps (actions : List Action) (s' : State) : s.run? t actions = some s' →
    s'.outcome? f = none → s'.drives? (.call o) = some (.synchronous, f)
  settles (answer : Answer) : s.Settles t o answer f

/-- One request serves all calls that find its flight open. -/
structure SingleFlight (t : Timing) (s : State) : Prop where
  /-- A call's flight is open exactly as long as one call is inside the acquisition. -/
  acquired (f : FlightId) (flight : Flight) : s.flights[f]? = some flight →
    flight.mode = .synchronous →
    (flight.outcome = none ↔ ∃! c, s.drives? (.call c) = some (.synchronous, f))
  /-- A renewal's flight is open exactly as long as one renewal, or the call about to start it,
  has it. -/
  renewed (f : FlightId) (flight : Flight) : s.flights[f]? = some flight →
    flight.mode = .background →
    (flight.outcome = none ↔ ∃! q, s.drives? q = some (.background, f))
  current (f : FlightId) : s.holding.current = some f → s.outcome? f = none →
    ∃! c, s.drives? (.call c) = some (.synchronous, f)
  /-- A call that finds a shared flight open waits, and makes no request before it decides anew, which
  it does only when the flight was given up. -/
  shared (c : CallId) (call : Call) (now : Instant) (s' : State) (f : FlightId) (stored : Context) :
    s.calls[c]? = some call → s.holding.context = some stored → stored.Equivalent call.context →
    s.holding.current = some f → s.outcome? f = none → s.step t (.decide c now) = some s' →
    s'.calls[c]? = some { call with point := .waiting f } ∧
      ∀ actions s'', s'.run? t actions = some s'' →
        (∀ context, Happening.asked (.call c) context ∉ s''.history) ∨
          s''.outcome? f = some .cancelled ∧ ∃ later, .decide c later ∈ actions
  /-- A waiting call can go on, or one call owns what it waits for. -/
  awaited (c : CallId) (call : Call) (f : FlightId) : s.calls[c]? = some call →
    call.point = .waiting f →
    (∃ s', s.step t (.resume c) = some s') ∨ s.outcome? f = none ∧ ∃! o, s.Owns t o f
  /-- Calls for equivalent contexts acquire one at a time. -/
  alone : s.Uniform → ∀ (c d : CallId) (f g : FlightId),
    s.drives? (.call c) = some (.synchronous, f) → s.drives? (.call d) = some (.synchronous, g) → c = d

/-- The flight of a renewal has exactly one driver as long as it is open. -/
theorem Matched.renewer (hs : s.Matched) {flight : Flight} (hf : s.flights[f]? = some flight)
    (hm : flight.mode = .background) :
    flight.outcome = none ↔ ∃! q, s.drives? q = some (.background, f) := by
  constructor
  · intro ho
    obtain ⟨q, hq⟩ := hs.driven f flight hf ho
    rw [hm] at hq
    exact ⟨q, hq, fun r hr => hs.unique r q _ _ f hr hq⟩
  · rintro ⟨q, hq, -⟩
    obtain ⟨flight', hf', -, ho⟩ := hs.pending _ _ f hq
    cases hf.symm.trans hf'
    exact ho

/-- A call whose flight has an outcome can go on, to decide again or to return the outcome. -/
theorem step_resume_eq {o : Outcome} (hc : s.calls[c]? = some call) (hp : call.point = .waiting f)
    (ho : s.outcome? f = some o) : ∃ s', s.step t (.resume c) = some s' ∧
      s'.calls[c]? = some { call with
        point := if o = .cancelled then .deciding else .done (.returned o.header) } := by
  by_cases hn : o = .cancelled
  · subst hn
    exact ⟨_, Call.Walks.step (.again hp ho) hc, moveCall_self (by exact hc)⟩
  · refine ⟨_, Call.Walks.step (.share hp ho hn) hc, ?_⟩
    rw [if_neg hn]
    exact moveCall_self (by exact hc)

theorem step_resume {o : Outcome} (hc : s.calls[c]? = some call) (hp : call.point = .waiting f)
    (ho : s.outcome? f = some o) : ∃ s', s.step t (.resume c) = some s' := by
  obtain ⟨s', h, -⟩ := step_resume_eq (t := t) hc hp ho
  exact ⟨s', h⟩

end State

/-- An open current flight is driven by one call: a renewal's flight becomes current only with its
pass. -/
theorem Reachable.current_owner (hr : Reachable t s) (hf : s.holding.current = some f)
    (ho : s.outcome? f = none) : ∃! c, s.drives? (.call c) = some (.synchronous, f) := by
  obtain ⟨context, -, ⟨flight, hfl, -⟩, hready⟩ := hr.sound.current f hf
  have hopen : flight.outcome = none := by simpa [State.outcome?, hfl] using ho
  refine (hr.matched.owner hfl ?_).mp hopen
  cases hm : flight.mode with
  | synchronous => rfl
  | background =>
    obtain ⟨pass, hp⟩ := hready (by simp [State.mode?, hfl, hm])
    rw [ho] at hp
    cases hp

theorem Reachable.owns (hr : Reachable t s) (hq : s.drives? (.call c) = some (.synchronous, f)) :
    s.Owns t c f :=
  ⟨hq, fun _ _ h ho => hr.run_drives hq h ho, fun _ => hr.matched.settles hq⟩

/-- In every reachable state there is one request for many calls. -/
theorem Reachable.singleFlight (hr : Reachable t s) : s.SingleFlight t where
  acquired f flight hf hm := hr.matched.owner hf hm
  renewed f flight hf hm := hr.matched.renewer hf hm
  current f hf ho := hr.current_owner hf ho
  shared c call now s' f stored hc hctx he hf ho hstep := by
    have hm := State.step_moves hstep
    obtain ⟨call', d, hc', -, hd, hled, -⟩ := hm.decided
    cases hc.symm.trans hc'
    obtain ⟨-, rfl⟩ := hd.waits hctx he hf ho
    have hwaits : s'.Waits c f := ⟨⟨_, hled, .inl rfl⟩, hr.decided_unasked hm⟩
    exact ⟨hled, fun actions s'' h => hwaits.run h⟩
  awaited c call f hc hp := by
    have hplaced := hr.placed hc
    rw [hp] at hplaced
    obtain ⟨⟨flight, hf, -⟩, hm⟩ := hplaced
    cases ho : s.outcome? f with
    | some o => exact .inl (State.step_resume hc hp ho)
    | none =>
      have hmode : flight.mode = .synchronous := by simpa [State.mode?, hf] using hm
      have hopen : flight.outcome = none := by simpa [State.outcome?, hf] using ho
      obtain ⟨o, hq, huniq⟩ := (hr.matched.owner hf hmode).mp hopen
      exact .inr ⟨rfl, o, hr.owns hq, fun i hi => huniq i hi.drives⟩
  alone hu c d f g hc hd := by
    have hcur := hr.drives_current hu hc
    have hcur' := hr.drives_current hu hd
    obtain rfl : f = g := Option.some.inj (hcur.symm.trans hcur')
    exact Requester.call.inj (hr.matched.unique _ _ _ _ f hc hd)

def sharedRow : List Action :=
  [.call {} .async false true, .call {} .async false true, .decide 0 ⟨0⟩, .decide 1 ⟨0⟩, .enter 0,
    .ask 0]

theorem singleFlight_sharedRow : ∃ s, State.run? {} {} sharedRow = some s ∧ s.SingleFlight {} := by
  obtain ⟨s, h⟩ : ∃ s, State.run? {} {} sharedRow = some s := ⟨_, rfl⟩
  exact ⟨s, h, Reachable.singleFlight ⟨_, h⟩⟩

end BearerTokens.Cache
