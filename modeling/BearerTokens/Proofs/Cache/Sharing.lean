import BearerTokens.Proofs.Cache.Cycles
import BearerTokens.Proofs.Cache.SingleFlight

/-! # Outcomes are shared, cancellation is not

A flight is written once, and whoever opened it or waited on it ends with what was written.  The one
outcome that is not passed on is that the flight was given up: who waited on it decides again.  So a
call is told that it is cancelled only if its own caller has asked for that, and a caller that gives
up a call which waits disturbs nobody else.  A flight that failed is not used again.
-/

namespace BearerTokens

/-- Only a flight that was given up tells a call that it is cancelled. -/
theorem Outcome.eq_cancelled_of_header {o : Outcome} (h : o.header = .error .cancelled) :
    o = .cancelled := by
  cases o with
  | cancelled => rfl
  | ready | failed => cases h

namespace Cache

variable {t : Timing} {s s' : State} {c : CallId} {call : Call} {f : FlightId}

/-! ## Calls that waited or opened a flight -/

inductive State.Waited (s : State) (c : CallId) (call : Call) (now : Instant) (f : FlightId) :
    Prop where
  | waiting (hp : call.point = .waiting f)
  | told {o : Outcome} (ho : s.outcome? f = some o) (hn : o ≠ .cancelled)
      (hp : call.point = .done (.returned o.header))
  /-- The flight was given up, and the call is about to decide again. -/
  | again (ho : s.outcome? f = some .cancelled) (hp : call.point = .deciding)
  /-- The flight was given up, and the call has decided again since. -/
  | decided {before after : List Happening} {now' : Instant} {d : Decision}
      (ho : s.outcome? f = some .cancelled)
      (hh : s.history = before ++ .decided c now (.wait f) :: after)
      (hd : .decided c now' d ∈ after)
  | withdrawn (hc : call.cancelled = true) (hp : call.point = .done (.returned (.error .cancelled)))
  | dropped (hp : call.point = .done .dropped)

theorem Call.Follows.waited {now : Instant} {p : Point} (hf : Follows s call.cancelled (.wait f) p)
    (hp : call.point = p) : s.Waited c call now f := by
  cases hf with
  | waiting => exact .waiting hp
  | again ho => exact .again ho hp
  | shared ho hn => exact .told ho hn hp
  | withdrawn hc => exact .withdrawn hc hp
  | dropped => exact .dropped hp

theorem Reachable.waited (hr : Reachable t s) (hc : s.calls[c]? = some call) {now : Instant}
    (hl : .decided c now (.wait f) ∈ s.history) : s.Waited c call now f := by
  cases hr.course hc with
  | undecided hn => exact absurd hl (hn _ _)
  | @decided before now' d hd hf =>
    obtain ⟨after, hh, hlast⟩ := hd.split
    rw [hh] at hl
    rcases List.mem_append.mp hl with hl | hl
    · obtain ⟨g, hg, ho⟩ := hd.earlier _ _ hl
      cases hg
      obtain ⟨first, rest, rfl⟩ := List.append_of_mem hl
      have hlater : .decided c now' d ∈ rest ++ .decided c now' d :: after := by simp
      exact .decided ho (by rw [hh, List.append_assoc, List.cons_append]) hlater
    · rcases List.mem_cons.mp hl with he | hl
      · cases he
        exact hf.waited rfl
      · exact absurd hl (hlast _ _)

theorem Reachable.acquired_ends (hr : Reachable t s) (hc : s.calls[c]? = some call) {now : Instant}
    {exit : Exit} (hl : .decided c now (.acquire f) ∈ s.history) (hp : call.point = .done exit) :
    ∃ o, s.outcome? f = some o ∧ Call.Ends call.cancelled o exit := by
  have hf := hr.decided_follows hc hl nofun
  rw [hp] at hf
  cases hf with
  | acquired ho he => exact ⟨_, ho, he⟩

/-! ## Calls that are cancelled -/

theorem Call.Ends.own {cancelled : Bool} {o : Outcome} {exit : Exit} (he : Ends cancelled o exit)
    (hexit : exit = .returned (.error .cancelled)) : cancelled = true := by
  cases he with
  | told hn => exact absurd (Outcome.eq_cancelled_of_header (by simpa using hexit)) hn
  | withdrawn hc => exact hc
  | crashed | dropped => cases hexit

theorem Call.Follows.own {cancelled : Bool} {d : Decision} {p : Point}
    (hf : Follows s cancelled d p) (hp : p = .done (.returned (.error .cancelled))) :
    cancelled = true := by
  cases hf with
  | acquired _ he => exact he.own (by simpa using hp)
  | shared _ hn => exact absurd (Outcome.eq_cancelled_of_header (by simpa using hp)) hn
  | withdrawn hc => exact hc
  | launched he => rcases he with rfl | rfl <;> cases hp
  | _ => cases hp

/-- A call is told that it is cancelled only if its caller has asked for that. -/
theorem Reachable.cancelled_own (hr : Reachable t s) (hc : s.calls[c]? = some call)
    (hp : call.point = .done (.returned (.error .cancelled))) : call.cancelled = true := by
  cases hr.course hc with
  | undecided _ hi =>
    rw [hp] at hi
    cases hi with
    | withdrawn hc => exact hc
  | decided _ hf => exact hf.own hp

/-- A call carries the flag only if its caller has asked to cancel it. -/
theorem State.cancel_mem {actions : List Action} (h : State.run? t {} actions = some s)
    (hc : s.calls[c]? = some call) (hflag : call.cancelled = true) : .cancel c ∈ actions := by
  refine State.run_induction_on (P := fun before x => ∀ call : Call, x.calls[c]? = some call →
    call.cancelled = true → .cancel c ∈ before) h (by simp) ?_ call hc hflag
  intro before a x y _ _ hy _ ih call hc hflag
  have hold : ∀ old : Call, x.calls[c]? = some old → old.cancelled = true →
      .cancel c ∈ before ++ [a] := fun old ho hf => List.mem_append_left _ (ih old ho hf)
  cases (State.step_moves hy).callFrom hc with
  | same hi => exact hold call hi hflag
  | added => cases hflag
  | flagged => exact List.mem_append_right _ (List.mem_singleton_self _)
  | @decided _ old _ _ hi => exact hold old hi hflag
  | @walked _ _ old _ _ _ hi => exact hold old hi hflag
  | @closed _ old _ _ _ hi => exact hold old hi hflag
  | @launched _ old _ _ _ _ _ _ _ _ hi => exact hold old hi hflag

def Action.GivesUp (c : CallId) (a : Action) : Prop := a = .cancel c ∨ a = .withdraw c ∨ a = .drop c

/-- A caller that gives up a call which waits changes nothing but that call, which has nothing to
write. -/
theorem State.waiting_givesUp {a : Action} (hc : s.calls[c]? = some call)
    (hp : call.point = .waiting f) (ha : a.GivesUp c) (h : s.step t a = some s') :
    s'.flights = s.flights ∧ s'.holding = s.holding ∧ s'.renewals = s.renewals ∧
      (∀ i, i ≠ c → s'.calls[i]? = s.calls[i]?) ∧
        ∃ after, s'.calls[c]? = some after ∧
          (after.point = .waiting f ∨ ∃ exit, after.point = .done exit) := by
  have hother : ∀ p i, i ≠ c → (s.moveCall c p).calls[i]? = s.calls[i]? := by
    intro p i hi
    simp [State.moveCall, List.getElem?_modify_ne _ _ (Ne.symm hi)]
  have hwalk : ∀ {p lines tally}, call.Walks t s c a p lines tally → ∃ exit, p = .done exit := by
    intro p lines tally hw
    rcases ha with rfl | rfl | rfl
    · cases hw
    · cases hw with
      | withdraw _ hq => rcases hq with hq | hq <;> cases hp.symm.trans hq
      | withdrawEarly | withdrawWaiting => exact ⟨_, rfl⟩
    · cases hw with
      | drop _ hq => cases hp.symm.trans hq
      | dropIdle => exact ⟨_, rfl⟩
  have hm := State.step_moves h
  cases hm with
  | @cancel i =>
    obtain rfl : i = c := by simpa [Action.GivesUp] using ha
    refine ⟨rfl, rfl, rfl, fun j hj => ?_, { call with cancelled := true }, ?_, .inl hp⟩
    · simp [State.cancel, List.getElem?_modify_ne _ _ (Ne.symm hj)]
    · simp [State.cancel, hc]
  | @walk _ i before p lines tally hi hw =>
    obtain rfl : i = c := by
      rcases ha with rfl | rfl | rfl <;> cases hw <;> rfl
    cases hc.symm.trans hi
    obtain ⟨exit, rfl⟩ := hwalk hw
    exact ⟨rfl, rfl, rfl, hother _, _, State.moveCall_self (by exact hc), .inr ⟨exit, rfl⟩⟩
  | walkRenewal _ hw => rcases ha with rfl | rfl | rfl <;> cases hw
  | launch _ _ _ hs => rcases ha with rfl | rfl | rfl <;> cases hs
  | call | decide | close | closeRenewal | countRenewal => simp [Action.GivesUp] at ha

/-! ## Flights that failed -/

theorem Reachable.failed_chosen (hr : Reachable t s) {fault : CredentialFault}
    (ho : s.outcome? f = some (.failed fault)) : ∃ c, s.Chose c f := by
  have hall : ∀ flight : Flight, s.flights[f]? = some flight →
      flight.outcome = some (.failed fault) → ∃ c, s.Chose c f := by
    refine hr.induct (P := fun x => ∀ flight : Flight, x.flights[f]? = some flight →
      flight.outcome = some (.failed fault) → ∃ c, x.Chose c f) (by simp) fun a x y hx hm ih => ?_
    intro flight hf ho
    have hold : ∀ before : Flight, x.flights[f]? = some before →
        before.outcome = some (.failed fault) → ∃ c, y.Chose c f := by
      intro before hb ho
      obtain ⟨c, hc⟩ := ih before hb ho
      exact ⟨c, hc.mono hm.extends⟩
    cases hm.flightFrom hf with
    | same hi => exact hold flight hi ho
    | opened => cases ho
    | @closed c call _ _ _ before hc hp hb =>
      rcases Flight.outcome_write ho with ho | rfl
      · exact hold before hb ho
      · obtain ⟨now, hd⟩ := hx.driving_decided hc (by rw [hp]; rfl)
        exact ⟨c, now, _, hm.extends.history.subset hd, rfl⟩
    | filled hrenewal hp hb =>
      rcases Flight.outcome_write ho with ho | rfl
      · exact hold _ hb ho
      · cases hx.closing_brings hrenewal hp
  obtain ⟨flight, hf, hfo⟩ := Option.bind_eq_some_iff.mp ho
  exact hall flight hf hfo

/-- A flight that failed, while it is current, serves no call. -/
theorem Holding.Decides.failed_ne {context : Context} {now : Instant} {h' : Holding} {d : Decision}
    {g : FlightId} {fault : CredentialFault}
    (hd : s.holding.Decides s.outcome? s.flights.length context now h' d)
    (hs : s.holding.Sound s) (ho : s.outcome? f = some (.failed fault))
    (hg : s.holding.current = some g) (hn : d ≠ .acquire s.flights.length) : f ≠ g := by
  rintro rfl
  have hserved : ∀ {m source pass}, s.holding.Promotes s.outcome? now m →
      m.usable s.outcome? now = some (source, pass) → False := by
    intro m source pass hm hu
    obtain ⟨hcur, hready, -⟩ := Holding.usable_eq_some.mp hu
    rcases hm.current_from hcur with ⟨hc, -⟩ | ⟨hstandby, -⟩
    · cases hg.symm.trans hc
      cases ho.symm.trans hready
    · -- beside a renewal on standby the current flight has a pass
      obtain ⟨_, g, pass', -, -, -, hc, hpass⟩ := hs.standby source hstandby
      cases hg.symm.trans hc
      cases ho.symm.trans hpass
  cases hd with
  | anew | lapsed => exact hn rfl
  | wait _ _ hf hopen =>
    cases hg.symm.trans hf
    cases ho.symm.trans hopen
  | renew _ _ _ _ hm hu | serve _ _ _ _ hm hu => exact hserved hm hu

/-- No call decides on a flight that failed.  The next one opens a flight, unless a newer flight for
an equivalent context is there by then. -/
theorem Reachable.failed_left (hr : Reachable t s) {context : Context} {now : Instant} {h' : Holding}
    {d : Decision} {fault : CredentialFault} (ho : s.outcome? f = some (.failed fault))
    (hd : s.holding.Decides s.outcome? s.flights.length context now h' d) :
    f < d.source ∧ (d = .acquire s.flights.length ∨
      ∃ g, s.holding.current = some g ∧ f < g ∧ s.Seeks g context) := by
  obtain ⟨c, hchosen⟩ := hr.failed_chosen ho
  obtain ⟨g, hg, hle⟩ := hr.ordered.chosen c f hchosen
  by_cases hn : d = .acquire s.flights.length
  · refine ⟨?_, .inl hn⟩
    rw [hn]
    exact hr.ordered.lt_length hr.sound (.inr (.inr ⟨c, hchosen⟩))
  · have hlt : f < g := Nat.lt_of_le_of_ne hle (hd.failed_ne hr.sound ho hg hn)
    have hsource : g ≤ d.source := hr.ordered.source_le hr.sound hd.advances hg
    obtain ⟨stored, hstored, hseeks, -⟩ := hr.sound.current g hg
    refine ⟨Nat.lt_of_lt_of_le hlt hsource, .inr ⟨g, hg, hlt, hseeks.trans ?_⟩⟩
    cases hd with
    | anew | lapsed => exact absurd rfl hn
    | wait hc he | renew hc he | serve hc he => exact Option.some.inj (hc.symm.trans hstored) ▸ he

/-! ## All of it -/

structure State.Shares (t : Timing) (actions : List Action) (s : State) : Prop where
  /-- A flight is written at most once, with the outcome that it has. -/
  once (f : FlightId) : written s.history f = (s.outcome? f).toList
  /-- A call that opened a flight ends with its outcome. -/
  acquirer (c : CallId) (call : Call) (now : Instant) (f : FlightId) (exit : Exit) :
    s.calls[c]? = some call → .decided c now (.acquire f) ∈ s.history → call.point = .done exit →
      ∃ o, s.outcome? f = some o ∧ Call.Ends call.cancelled o exit
  waiter (c : CallId) (call : Call) (now : Instant) (f : FlightId) :
    s.calls[c]? = some call → .decided c now (.wait f) ∈ s.history → s.Waited c call now f
  /-- A call that waits on a flight with an outcome can go on, to decide again or to return it. -/
  resumes (c : CallId) (call : Call) (f : FlightId) (o : Outcome) : s.calls[c]? = some call →
    call.point = .waiting f → s.outcome? f = some o → ∃ s', s.step t (.resume c) = some s' ∧
      s'.calls[c]? = some { call with
        point := if o = .cancelled then .deciding else .done (.returned o.header) }
  own (c : CallId) (call : Call) : s.calls[c]? = some call →
    call.point = .done (.returned (.error .cancelled)) → .cancel c ∈ actions
  scope (c : CallId) (call : Call) (f : FlightId) (a : Action) (s' : State) :
    s.calls[c]? = some call → call.point = .waiting f → a.GivesUp c → s.step t a = some s' →
      s'.flights = s.flights ∧ s'.holding = s.holding ∧ s'.renewals = s.renewals ∧
        (∀ i, i ≠ c → s'.calls[i]? = s.calls[i]?) ∧
          ∃ after, s'.calls[c]? = some after ∧
            (after.point = .waiting f ∨ ∃ exit, after.point = .done exit)
  /-- A flight that failed is left behind. -/
  failed (f : FlightId) (fault : CredentialFault) (context : Context) (now : Instant)
    (h' : Holding) (d : Decision) : s.outcome? f = some (.failed fault) →
      s.holding.decide s.outcome? s.flights.length context now = (h', d) →
        f < d.source ∧ (d = .acquire s.flights.length ∨
          ∃ g, s.holding.current = some g ∧ f < g ∧ s.Seeks g context)

/-- After any row of actions outcomes are shared and cancellations are not. -/
theorem State.shares {actions : List Action} (h : State.run? t {} actions = some s) :
    s.Shares t actions := by
  have hr : Reachable t s := ⟨actions, h⟩
  exact {
    once := hr.written_eq
    acquirer := fun _ _ _ _ _ hc hl hp => hr.acquired_ends hc hl hp
    waiter := fun _ _ _ _ hc hl => hr.waited hc hl
    resumes := fun _ _ _ _ hc hp ho => State.step_resume_eq hc hp ho
    own := fun _ _ hc hp => State.cancel_mem h hc (hr.cancelled_own hc hp)
    scope := fun _ _ _ _ _ hc hp ha hs => State.waiting_givesUp hc hp ha hs
    failed := fun _ _ _ _ _ _ ho hd => hr.failed_left ho (Holding.decide_decides hd) }

/-- A call asks in vain, one that waits is told so, and one that waits is cancelled before. -/
def failureRow : List Action :=
  [.call {} .async false true, .call {} .async false true, .call {} .async false true,
    .decide 0 ⟨0⟩, .decide 1 ⟨0⟩, .decide 2 ⟨0⟩, .enter 0, .ask 0, .cancel 2, .withdraw 2,
    .answer 0 (.error (.unavailable "offline")), .close 0, .resume 1]

theorem shares_failureRow : ∃ s, State.run? {} {} failureRow = some s ∧
    s.Shares {} failureRow ∧ s.outcome? 0 = some (.failed (.unavailable "offline")) := by
  obtain ⟨s, h, ho⟩ : ∃ s, State.run? {} {} failureRow = some s ∧
      s.outcome? 0 = some (.failed (.unavailable "offline")) := ⟨_, rfl, rfl⟩
  exact ⟨s, h, State.shares h, ho⟩

/-- A call for another context displaces a flight that is still open, a third call opens a newer one
for the first context, and then the first flight fails. -/
def displacedRow : List Action :=
  [.call {} .async false true, .decide 0 ⟨0⟩, .enter 0, .ask 0,
    .call { claims := some "B" } .async false true, .decide 1 ⟨0⟩,
    .call {} .async false true, .decide 2 ⟨0⟩,
    .answer 0 (.error (.unavailable "offline")), .close 0]

/-- The first call for the context of a flight that has just failed does not always open another. -/
theorem not_always_acquiring : ¬ ∀ (s : State) (before : List Happening) (f : FlightId)
    (fault : CredentialFault) (context : Context) (now : Instant) (h' : Holding) (d : Decision),
    Reachable {} s → s.history = before ++ [.wrote f (.failed fault)] → s.Seeks f context →
    s.holding.decide s.outcome? s.flights.length context now = (h', d) →
    d = .acquire s.flights.length := by
  intro hall
  obtain ⟨s, before, h', h, hh, hseeks, hd⟩ : ∃ s before h',
      State.run? {} {} displacedRow = some s ∧
        s.history = before ++ [.wrote 0 (.failed (.unavailable "offline"))] ∧
          (∃ flight : Flight, s.flights[0]? = some flight ∧ flight.context = {}) ∧
            s.holding.decide s.outcome? s.flights.length {} ⟨0⟩ = (h', .wait 2) :=
    ⟨_, _, _, rfl, rfl, ⟨_, rfl, rfl⟩, rfl⟩
  obtain ⟨flight, hf, hcontext⟩ := hseeks
  cases hall s before 0 _ {} ⟨0⟩ h' (.wait 2) ⟨_, h⟩ hh ⟨flight, hf, hcontext ▸ .refl _⟩ hd

end Cache

end BearerTokens
