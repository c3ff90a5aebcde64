import BearerTokens.Proofs.Cache.Held
import BearerTokens.Proofs.Cache.Requests

/-! # Contexts are kept apart

A header that a call gets back is that of a flight which the call decided on, and each call decides on
flights for a context equivalent to its own.  The pass in a flight carries a token which the
credential gave to an earlier request for such a context; a renewal that fails copies a pass, and the
copy has the same header.
-/

namespace BearerTokens.Cache

def Decision.source : Decision → FlightId
  | .acquire f | .wait f => f
  | .renew _ source _ | .serve source _ => source

namespace State

def Chose (s : State) (c : CallId) (f : FlightId) : Prop :=
  ∃ now d, Happening.decided c now d ∈ s.history ∧ d.source = f

/-- The call has decided on a flight whose pass has the header. -/
def Supplied (s : State) (c : CallId) (header : String) : Prop :=
  ∃ f pass, s.Chose c f ∧ s.outcome? f = some (.ready pass) ∧ pass.header = header

/-- The header carries a token that the credential gave to a request for an equivalent context. -/
def Issued (s : State) (context : Context) (header : String) : Prop :=
  ∃ (q : Requester) (asker : Context) (token : Token) (before after : List Happening),
    s.history = before ++ .answered q (.ok token) :: after ∧ .asked q asker ∈ before ∧
      asker.Equivalent context ∧ header = "Bearer " ++ token.secret.value

end State

variable {t : Timing} {s s' : State} {c : CallId} {context context' : Context}

/-! ## The flight that supplies a call -/

theorem State.Chose.mono {f : FlightId} (h : s.Chose c f) (he : Extends s s') : s'.Chose c f := by
  obtain ⟨now, d, hl, hd⟩ := h
  exact ⟨now, d, he.history.subset hl, hd⟩

theorem State.Supplied.mono {header : String} (h : s.Supplied c header) (he : Extends s s') :
    s'.Supplied c header := by
  obtain ⟨f, pass, hf, ho, hp⟩ := h
  exact ⟨f, pass, hf.mono he, he.outcome ho, hp⟩

/-- The flight of a decision suits the call: what is served comes from a flight for the stored
context, and the call stores its own where it does not share. -/
theorem Holding.Decides.source_seeks {now : Instant} {h' : Holding} {d : Decision}
    (hd : s.holding.Decides s.outcome? s.flights.length context now h' d)
    (hs : s.holding.Sound s) (he : Extends s s')
    (ho : ∀ m, d.opens? = some m →
      s'.flights[s.flights.length]? = some { mode := m, context := context }) :
    s'.Seeks d.source context := by
  have hserved : ∀ {stored m source pass}, s.holding.context = some stored →
      stored.Equivalent context → s.holding.Promotes s.outcome? now m →
      m.usable s.outcome? now = some (source, pass) → s'.Seeks source context := by
    intro stored m source pass hc heq hm hu
    obtain ⟨hcur, -, -⟩ := Holding.usable_eq_some.mp hu
    obtain ⟨ctx, hctx, hk, -⟩ := (hm.sound hs).current source hcur
    obtain rfl : ctx = stored := Option.some.inj (hctx.symm.trans (hm.context_eq.trans hc))
    exact (hk.trans heq).mono he
  have hplaced := hd.placed hs he ho
  cases hd with
  | anew | lapsed => exact hplaced
  | wait => exact hplaced.1
  | renew hc heq _ _ hm hu => exact hserved hc heq hm hu
  | serve hc heq _ _ hm hu => exact hserved hc heq hm hu

/-- A call decides only on flights for a context equivalent to its own. -/
theorem Reachable.chose_seeks (hr : Reachable t s) {f : FlightId} {call : Call}
    (h : s.Chose c f) (hc : s.calls[c]? = some call) : s.Seeks f call.context := by
  obtain ⟨now, d, hl, rfl⟩ := h
  have hall : ∃ call, s.calls[c]? = some call ∧ s.Seeks d.source call.context := by
    refine hr.induct (P := fun x => Happening.decided c now d ∈ x.history →
      ∃ call, x.calls[c]? = some call ∧ x.Seeks d.source call.context) (by simp)
      (fun a x y hx hm ih => ?_) hl
    intro hl
    have he := hm.extends
    have hold : Happening.decided c now d ∈ x.history →
        ∃ call, y.calls[c]? = some call ∧ y.Seeks d.source call.context := by
      intro hl
      obtain ⟨call, hc, hk⟩ := ih hl
      obtain ⟨call', hc', hctx, -⟩ := he.call c call hc
      exact ⟨call', hc', hctx.symm ▸ hk.mono he⟩
    cases hm.lineFrom hl with
    | same hl => exact hold hl
    | decided hi hp hd hc' ho => exact ⟨_, hc', hd.source_seeks hx.sound he ho⟩
    | walked _ hw hl => cases hw <;> simp at hl
    | started _ _ _ hs hl =>
      cases hs with
      | hosted => simp at hl
      | alone hk => cases hk <;> simp at hl
    | walkedRenewal _ hw hl =>
      cases hw with
      | refused _ hk | expire _ hk => cases hk <;> simp at hl
      | _ => simp at hl
  obtain ⟨call', hc', hk⟩ := hall
  cases hc.symm.trans hc'
  exact hk

def Call.Point.Fed (s : State) (c : CallId) : Call.Point → Prop
  | .deciding => True
  | .opening f | .calling f | .asking f | .waiting f => s.Chose c f
  | .closing f o exit => s.Chose c f ∧
      ∀ header, exit = .returned (.ok header) → ∃ pass, o = .ready pass ∧ pass.header = header
  | .launching _ source pass => s.Chose c source ∧ s.outcome? source = some (.ready pass)
  | .settling _ exit | .done exit => ∀ header, exit = .returned (.ok header) → s.Supplied c header

theorem Call.Point.Fed.mono {p : Call.Point} (hp : p.Fed s c) (he : Extends s s') : p.Fed s' c := by
  cases p with
  | deciding => trivial
  | closing f o exit => exact ⟨hp.1.mono he, hp.2⟩
  | launching f source pass => exact ⟨hp.1.mono he, he.outcome hp.2⟩
  | settling r exit | done exit => exact fun header h => (hp header h).mono he
  | _ => exact State.Chose.mono hp he

theorem Holding.Decides.fed {now : Instant} {h' : Holding} {d : Decision}
    (hd : s.holding.Decides s.outcome? s.flights.length context now h' d) (he : Extends s s')
    (hl : Happening.decided c now d ∈ s'.history) : d.leads.Fed s' c := by
  have hchose : s'.Chose c d.source := ⟨now, d, hl, rfl⟩
  cases hd with
  | anew | wait | lapsed => exact hchose
  | renew _ _ _ _ _ hu => exact ⟨hchose, he.outcome (Holding.usable_eq_some.mp hu).2.1⟩
  | serve _ _ _ _ _ hu =>
    intro header hh
    cases hh
    exact ⟨_, _, hchose, he.outcome (Holding.usable_eq_some.mp hu).2.1, rfl⟩

theorem Call.Walks.fed {call : Call} {a : Action} {p : Call.Point} {lines : List Happening}
    {tally : Metrics → Metrics} (hw : call.Walks t s c a p lines tally) (hs : call.point.Fed s c) :
    p.Fed s c := by
  cases hw with
  | enter hp | ask hp =>
    rw [hp] at hs
    exact hs
  | answered hp =>
    rw [hp] at hs
    refine ⟨hs, ?_⟩
    rintro _ ⟨⟩
    exact ⟨_, rfl, rfl⟩
  | unfit hp | refused hp | crash hp | drop _ hp =>
    rw [hp] at hs
    exact ⟨hs, nofun⟩
  | withdraw _ hp => rcases hp with hp | hp <;> (rw [hp] at hs; exact ⟨hs, nofun⟩)
  | again => trivial
  | withdrawEarly | withdrawWaiting | dropIdle => exact nofun
  | @share f o hp ho hn =>
    rw [hp] at hs
    intro header hx
    cases o with
    | ready pass => cases hx; exact ⟨f, pass, hs, ho, rfl⟩
    | failed fault => cases hx
    | cancelled => exact absurd rfl hn
  | finish hp =>
    rw [hp] at hs
    exact hs

/-- In a reachable state every call has decided on the flight that supplies it. -/
theorem Reachable.fed (hr : Reachable t s) {call : Call} (hc : s.calls[c]? = some call) :
    call.point.Fed s c := by
  refine hr.induct (P := fun x => ∀ (c : CallId) (call : Call), x.calls[c]? = some call →
    call.point.Fed x c) (fun c call h => by simp at h) (fun a x y hx hm ih => ?_) c call hc
  intro c call hc
  have he := hm.extends
  cases hm.callFrom hc with
  | same hi => exact (ih c call hi).mono he
  | added hp =>
    rcases hp with rfl | ⟨fault, rfl⟩
    · trivial
    · exact nofun
  | @flagged _ before hi => exact (ih c before hi).mono he
  | decided _ _ hd _ hh => exact hd.fed he (by simp [hh])
  | walked hi hw => exact (hw.fed (ih c _ hi)).mono he
  | @closed _ before f o exit hi hp hf =>
    have hold := ih c before hi
    rw [hp] at hold
    have ho := hx.matched.outcome_written (State.drives?_closing hi hp) hf
    intro header hx'
    obtain ⟨pass, rfl, hpass⟩ := hold.2 header hx'
    exact ⟨f, pass, hold.1.mono he, ho, hpass⟩
  | launched hi hp hrenewal hstart =>
    have hold := (ih c _ hi)
    rw [hp] at hold
    subst hrenewal
    have hsupplied := State.Supplied.mono ⟨_, _, hold.1, hold.2, rfl⟩ he
    cases hstart with
    | hosted =>
      rintro _ ⟨⟩
      exact hsupplied
    | alone _ hexit =>
      intro header hx'
      rw [hexit] at hx'
      split at hx'
      · cases hx'
        exact hsupplied
      · cases hx'

/-! ## Issued headers -/

def Outcome.Sourced (s : State) (context : Context) (o : Outcome) : Prop :=
  ∀ pass, o = .ready pass → s.Issued context pass.header

def Renewal.Sourced (s : State) (renewal : Renewal) : Prop :=
  s.Issued renewal.context renewal.previous.header ∧
    ∀ o ending, renewal.point = .closing o ending → Outcome.Sourced s renewal.context o

structure State.Sourced (s : State) : Prop where
  flight (f : FlightId) (flight : Flight) (o : Outcome) : s.flights[f]? = some flight →
    flight.outcome = some o → Outcome.Sourced s flight.context o
  call (c : CallId) (call : Call) (f : FlightId) (o : Outcome) (exit : Exit) :
    s.calls[c]? = some call → call.point = .closing f o exit → Outcome.Sourced s call.context o
  renewal (r : RenewalId) (renewal : Renewal) : s.renewals[r]? = some renewal → renewal.Sourced s

theorem State.Issued.mono {header : String} (h : s.Issued context header) (he : Extends s s') :
    s'.Issued context header := by
  obtain ⟨q, asker, token, before, after, hh, hasked, heq, hheader⟩ := h
  obtain ⟨rest, hrest⟩ := he.history
  refine ⟨q, asker, token, before, after ++ rest, ?_, hasked, heq, hheader⟩
  rw [← hrest, hh, List.append_assoc, List.cons_append]

theorem State.Issued.trans {header : String} (h : s.Issued context header)
    (he : context.Equivalent context') : s.Issued context' header := by
  obtain ⟨q, asker, token, before, after, hh, hasked, heq, hheader⟩ := h
  exact ⟨q, asker, token, before, after, hh, hasked, heq.trans he, hheader⟩

/-- The answer to a request in the history issues a header. -/
theorem State.Issued.answered {q : Requester} {token : Token} {pass : Pass} {lead : Duration}
    {rest : List Happening} (hasked : Happening.asked q context ∈ s.history)
    (hh : s'.history = s.history ++ .answered q (.ok token) :: rest)
    (ht : Pass.ofToken? token lead = some pass) : s'.Issued context pass.header :=
  ⟨q, context, token, s.history, rest, hh, hasked, .refl _, (Pass.ofToken?_eq ht).1⟩

theorem Outcome.Sourced.mono {o : Outcome} (h : Outcome.Sourced s context o) (he : Extends s s') :
    Outcome.Sourced s' context o := fun pass hp => (h pass hp).mono he

theorem Outcome.Sourced.trans {o : Outcome} (h : Outcome.Sourced s context o)
    (he : context.Equivalent context') : Outcome.Sourced s context' o :=
  fun pass hp => (h pass hp).trans he

/-- What a flight brings suits every context that the flight suits. -/
theorem State.Sourced.seeks (hs : s.Sourced) {f : FlightId} {o : Outcome}
    (hf : s.Seeks f context) (ho : s.outcome? f = some o) : Outcome.Sourced s context o := by
  obtain ⟨flight, hfl, heq⟩ := hf
  have hfo : flight.outcome = some o := by simpa [State.outcome?, hfl] using ho
  exact (hs.flight f flight o hfl hfo).trans heq

/-! ## What each action hands out -/

theorem Renewal.Sourced.mono {renewal : Renewal} (h : renewal.Sourced s) (he : Extends s s') :
    renewal.Sourced s' :=
  ⟨h.1.mono he, fun o ending hp => (h.2 o ending hp).mono he⟩

/-- A flight that has supplied a call has a pass for the call's context. -/
theorem State.Sourced.chose (hs : s.Sourced) (hr : Reachable t s) {f : FlightId} {pass : Pass}
    {call : Call} (hf : s.Chose c f) (ho : s.outcome? f = some (.ready pass))
    (hc : s.calls[c]? = some call) : s.Issued call.context pass.header :=
  hs.seeks (hr.chose_seeks hf hc) ho pass rfl

theorem Renewal.Keeps.sourced {r : RenewalId} {renewal : Renewal} {now : Instant}
    {delay : Duration} {reason : Reason} {error : String} {p : Renewal.Point}
    {lines : List Happening} (hk : renewal.Keeps r now delay reason error p lines)
    (hs : s.Issued renewal.context renewal.previous.header) :
    Renewal.Sourced s { renewal with point := p } := by
  refine ⟨hs, ?_⟩
  rintro o ending hp pass rfl
  cases hk with
  | kept hd => cases hp; exact (Pass.deferred?_eq hd).1 ▸ hs
  | lost => cases hp

theorem Renewal.Walks.sourced {r : RenewalId} {renewal : Renewal} {a : Action} {p : Renewal.Point}
    {lines : List Happening} (hw : renewal.Walks t r a p lines)
    (hh : s'.history = s.history ++ lines) (hr : Reachable t s) (he : Extends s s')
    (hs : renewal.Sourced s) (hrenewal : s.renewals[r]? = some renewal) :
    Renewal.Sourced s' { renewal with point := p } := by
  have hprev := hs.1.mono he
  cases hw with
  | answered hp ht =>
    have hissued := State.Issued.answered (hr.askingRenewal hrenewal hp) hh ht
    refine ⟨hprev, ?_⟩
    rintro o ending hq pass rfl
    cases hq
    exact hissued
  | refused _ hk => exact hk.sourced hprev
  | expire _ hk => exact hk.sourced hprev
  | begin | ask => exact ⟨hprev, nofun⟩
  | unfit | abandon =>
    refine ⟨hprev, ?_⟩
    rintro o ending hq pass rfl
    cases hq

/-! ## All reachable states -/

theorem State.Sourced.step_flight {a : Action} (hr : Reachable t s) (hs : s.Sourced)
    (hm : State.Moves t s a s') {f : FlightId} {flight : Flight} {o : Outcome}
    (hf : s'.flights[f]? = some flight) (ho : flight.outcome = some o) :
    Outcome.Sourced s' flight.context o := by
  have he := hm.extends
  -- a flight that is written gets the outcome of its driver, unless it has one
  have hwrite : ∀ {f : FlightId} {before : Flight} {written : Outcome} {context : Context},
      s.flights[f]? = some before → s.Seeks f context → Outcome.Sourced s context written →
      (before.write written).outcome = some o → Outcome.Sourced s' before.context o := by
    intro f before written context hb ⟨_, hb', heq⟩ hwritten ho
    cases hb.symm.trans hb'
    cases hbo : before.outcome with
    | none =>
      obtain rfl : written = o := by simpa [Flight.outcome_write_of_none hbo] using ho
      exact (hwritten.trans heq.symm).mono he
    | some o' =>
      rw [Flight.outcome_write_of_some hbo] at ho
      cases ho
      exact (hs.flight _ before _ hb hbo).mono he
  cases hm.flightFrom hf with
  | same hi => exact (hs.flight f flight o hi ho).mono he
  | opened => cases ho
  | closed hc hp hb =>
    have hplaced := hr.placed hc
    rw [hp] at hplaced
    have hnew := hwrite hb hplaced (hs.call _ _ _ _ _ hc hp) ho
    exact hnew
  | filled hrenewal hp hb =>
    have hnew := hwrite hb (hr.renewal_seeks hrenewal) ((hs.renewal _ _ hrenewal).2 _ _ hp) ho
    exact hnew

theorem State.Sourced.step_call {a : Action} (hr : Reachable t s) (hs : s.Sourced)
    (hm : State.Moves t s a s') {call : Call} {f : FlightId} {o : Outcome} {exit : Exit}
    (hc : s'.calls[c]? = some call) (hp : call.point = .closing f o exit) :
    Outcome.Sourced s' call.context o := by
  have he := hm.extends
  cases hm.callFrom hc with
  | same hi => exact (hs.call c call f o exit hi hp).mono he
  | added hq => rcases hq with rfl | ⟨fault, rfl⟩ <;> cases hp
  | @flagged _ before hi => exact (hs.call c before f o exit hi hp).mono he
  | @decided _ _ _ d => cases d <;> cases hp
  | walked hi hw hh =>
    cases hw with
    | answered hq ht =>
      have hissued := State.Issued.answered (hr.asking hi hq) hh ht
      rintro pass rfl
      cases hp
      exact hissued
    | unfit | refused | crash | withdraw | drop => rintro pass rfl; cases hp
    | _ => cases hp
  | closed => cases hp
  | launched _ _ _ hs => cases hs <;> cases hp

theorem State.Sourced.step_renewal {a : Action} (hr : Reachable t s) (hs : s.Sourced)
    (hm : State.Moves t s a s') {r : RenewalId} {renewal : Renewal}
    (h : s'.renewals[r]? = some renewal) : renewal.Sourced s' := by
  have he := hm.extends
  cases hm.renewalFrom h with
  | same hi => exact (hs.renewal r renewal hi).mono he
  | started hc hp hrenewal hstart =>
    have hfed := hr.fed hc
    rw [hp] at hfed
    have hissued := (hs.chose hr hfed.1 hfed.2 hc).mono he
    subst hrenewal
    cases hstart with
    | hosted => exact ⟨hissued, nofun⟩
    | alone hk => exact hk.sourced hissued
  | walked hi hw hh => exact hw.sourced hh hr he (hs.renewal _ _ hi) hi
  | closed hi => exact ⟨(hs.renewal _ _ hi).1.mono he, nofun⟩
  | counted hi => exact ⟨(hs.renewal _ _ hi).1.mono he, nofun⟩

theorem Reachable.sourced (hr : Reachable t s) : s.Sourced := by
  refine hr.induct (P := State.Sourced) ⟨by simp, by simp, by simp⟩ fun a x y hx hm ih => ?_
  exact ⟨fun _ _ _ hf ho => ih.step_flight hx hm hf ho, fun _ _ _ _ _ hc hp => ih.step_call hx hm hc hp,
    fun _ _ h => ih.step_renewal hx hm h⟩

/-- A call that has returned a header got a token that was issued for its own context, by way of a
flight for that context on which it decided. -/
theorem Reachable.isolated (hr : Reachable t s) {call : Call} {header : String}
    (hc : s.calls[c]? = some call) (hp : call.point = .done (.returned (.ok header))) :
    s.Issued call.context header ∧ ∃ now d pass, Happening.decided c now d ∈ s.history ∧
      s.Seeks d.source call.context ∧ s.outcome? d.source = some (.ready pass) ∧
        pass.header = header := by
  have hfed := hr.fed hc
  rw [hp] at hfed
  obtain ⟨f, pass, hchose, ho, rfl⟩ := hfed header rfl
  refine ⟨hr.sourced.chose hr hchose ho hc, ?_⟩
  obtain ⟨now, d, hl, rfl⟩ := hchose
  exact ⟨now, d, pass, hl, hr.chose_seeks ⟨now, d, hl, rfl⟩ hc, ho, rfl⟩

/-- A renewal without a runtime copies the pass that a third call is then served. -/
def copiedRow : List Action :=
  [.call {} .async false false, .decide 0 ⟨0⟩, .enter 0, .ask 0,
    .answer 0 (.ok (.ofText "T1" ⟨600000000000⟩)), .close 0,
    .call {} .async false false, .decide 1 ⟨400000000000⟩, .settle 1 ⟨400000000000⟩,
    .closeRenewal 0, .countRenewal 0, .finish 1,
    .call { correlation := some "id" } .async false false, .decide 2 ⟨400000000000⟩]

theorem isolated_copiedRow : ∃ s call, State.run? {} {} copiedRow = some s ∧
    s.calls[2]? = some call ∧ s.Issued call.context "Bearer T1" := by
  obtain ⟨s, call, h, hc, hp⟩ : ∃ s call, State.run? {} {} copiedRow = some s ∧
      s.calls[2]? = some call ∧ call.point = .done (.returned (.ok "Bearer T1")) :=
    ⟨_, _, rfl, rfl, rfl⟩
  exact ⟨s, call, h, hc, (Reachable.isolated ⟨_, h⟩ hc hp).1⟩

end BearerTokens.Cache
