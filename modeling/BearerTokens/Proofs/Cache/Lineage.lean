import BearerTokens.Proofs.Cache.Course
import BearerTokens.Proofs.Cache.Isolation

/-! # Where a pass comes from

The pass of a flight carries a token that the credential gave to whoever filled the flight.  A renewal
that keeps its previous pass is the exception: its flight passes on the token of the flight that it
was to replace.  Followed back in this way, every pass that a flight holds leads to one answer of the
credential, with its header and its expiry.
-/

namespace BearerTokens

def Pass.Carries (p : Pass) (token : Token) : Prop :=
  p.header = "Bearer " ++ token.secret.value ∧ p.expiry = token.expiry.instant

theorem Pass.Carries.congr {p q : Pass} {token : Token} (hp : p.Carries token)
    (hh : q.header = p.header) (he : q.expiry = p.expiry) : q.Carries token :=
  ⟨hh.trans hp.1, he.trans hp.2⟩

theorem Flight.outcome_write {f : Flight} {o p : Outcome} (h : (f.write o).outcome = some p) :
    f.outcome = some p ∨ o = p := by
  cases hf : f.outcome with
  | none =>
    rw [Flight.outcome_write_of_none hf] at h
    exact .inr (Option.some.inj h)
  | some q =>
    rw [Flight.outcome_write_of_some hf] at h
    exact .inl h

namespace Cache

/-- What a flight holds stems from a flight, whose acquisition the credential answered with the
token. -/
inductive State.Stems (s : State) : FlightId → FlightId → Token → Prop where
  | acquired {c : CallId} {now : Instant} {f : FlightId} {token : Token}
      (hd : .decided c now (.acquire f) ∈ s.history)
      (ha : .answered (.call c) (.ok token) ∈ s.history) : Stems s f f token
  | renewed {r : RenewalId} {renewal : Renewal} {token : Token} (h : s.renewals[r]? = some renewal)
      (ha : .answered (.renewal r) (.ok token) ∈ s.history) :
      Stems s renewal.flight renewal.flight token
  /-- A renewal that keeps its previous pass passes on what its source holds. -/
  | kept {r : RenewalId} {renewal : Renewal} {now : Instant} {reason : Reason} {g : FlightId}
      {token : Token} (h : s.renewals[r]? = some renewal) (hk : .kept r now reason ∈ s.history)
      (hs : Stems s renewal.source g token) : Stems s renewal.flight g token

def State.Traced (s : State) (f : FlightId) (p : Pass) : Prop :=
  ∃ g token, s.Stems f g token ∧ p.Carries token

variable {t : Timing} {s s' : State} {f : FlightId} {p : Pass}

theorem State.Stems.mono {g : FlightId} {token : Token} (h : s.Stems f g token)
    (he : Extends s s') : s'.Stems f g token := by
  induction h with
  | acquired hd ha => exact .acquired (he.history.subset hd) (he.history.subset ha)
  | @renewed r renewal token h ha =>
    obtain ⟨q, hq⟩ := he.renewal r renewal h
    have hstems : s'.Stems { renewal with point := q }.flight renewal.flight token :=
      .renewed hq (he.history.subset ha)
    exact hstems
  | @kept r renewal _ _ g token h hk _ ih =>
    obtain ⟨q, hq⟩ := he.renewal r renewal h
    have hstems : s'.Stems { renewal with point := q }.flight g token :=
      .kept hq (he.history.subset hk) ih
    exact hstems

theorem State.Traced.mono (h : s.Traced f p) (he : Extends s s') : s'.Traced f p := by
  obtain ⟨g, token, hs, hp⟩ := h
  exact ⟨g, token, hs.mono he, hp⟩

/-! ## The decision behind a point -/

theorem Reachable.launching_decided (hr : Reachable t s) {c : CallId} {call : Call}
    {source : FlightId} (hc : s.calls[c]? = some call) (hp : call.point = .launching f source p) :
    ∃ before now, s.Decided c before now (.renew f source p) := by
  cases hr.course hc with
  | undecided _ hi => rw [hp] at hi; cases hi
  | decided hd hf =>
    rw [hp] at hf
    cases hf
    exact ⟨_, _, hd⟩

/-- What was written before a decision is an outcome still. -/
theorem Reachable.outcome_of_written (hr : Reachable t s) {c : CallId} {before : List Happening}
    {now : Instant} {d : Decision} (hd : s.Decided c before now d) {o : Outcome}
    (ho : o ∈ written before f) : s.outcome? f = some o := by
  obtain ⟨after, hh, -⟩ := hd.split
  have hl : Happening.wrote f o ∈ s.history := by simp [hh, mem_written.mp ho]
  have hmem := mem_written.mpr hl
  rw [hr.written_eq] at hmem
  simpa using hmem

/-! ## Renewals that keep their pass -/

theorem Renewal.Keeps.line {r : RenewalId} {renewal : Renewal} {now : Instant} {delay : Duration}
    {reason : Reason} {error : String} {q : Point} {lines : List Happening}
    (hk : renewal.Keeps r now delay reason error q lines) {ending : Ending}
    (hq : q = .closing (.ready p) ending) : .kept r now reason ∈ lines ∧
      p.header = renewal.previous.header ∧ p.expiry = renewal.previous.expiry := by
  cases hk with
  | kept hd =>
    cases hq
    exact ⟨by simp, Pass.deferred?_eq hd⟩
  | lost => cases hq

/-- What a call that can reach no runtime starts, seen from the state after. -/
theorem State.Moves.settled {c : CallId} {now : Instant}
    (hm : State.Moves t s (.settle c now) s') : ∃ (call : Call) (renewal : Renewal)
      (q : Renewal.Point) (exit : Exit) (lines : List Happening),
      renewal.Keeps s.renewals.length now t.retry .noRuntime ConfigFault.noRuntime.message q lines ∧
      exit = (if (renewal.previous.deferred? now t.retry).isSome then
        .returned (.ok renewal.previous.header) else .crashed) ∧
      s'.renewals[s.renewals.length]? = some { renewal with point := q } ∧
      s'.calls[c]? = some { call with point := .settling s.renewals.length exit } ∧
      s'.history = s.history ++ lines := by
  cases hm with
  | walk _ hw => cases hw
  | walkRenewal _ hw => cases hw
  | launch hc hp hr hs =>
    cases hs with
    | alone hk he =>
      exact ⟨_, _, _, _, _, hk, he, by simp [count, moveCall, record], moveCall_self (by exact hc),
        rfl⟩

/-! ## All reachable states -/

structure State.Rooted (s : State) : Prop where
  flight (f : FlightId) (flight : Flight) (p : Pass) : s.flights[f]? = some flight →
    flight.outcome = some (.ready p) → s.Traced f p
  call (c : CallId) (call : Call) (f : FlightId) (p : Pass) (exit : Exit) :
    s.calls[c]? = some call → call.point = .closing f (.ready p) exit → s.Traced f p
  previous (r : RenewalId) (renewal : Renewal) : s.renewals[r]? = some renewal →
    s.Traced renewal.source renewal.previous
  renewal (r : RenewalId) (renewal : Renewal) (p : Pass) (ending : Ending) :
    s.renewals[r]? = some renewal → renewal.point = .closing (.ready p) ending →
      s.Traced renewal.flight p

namespace State.Rooted

variable {a : Action}

theorem outcome (hs : s.Rooted) (ho : s.outcome? f = some (.ready p)) : s.Traced f p := by
  obtain ⟨flight, hf, hp⟩ := Option.bind_eq_some_iff.mp ho
  exact hs.flight f flight p hf hp

theorem step_flight (hs : s.Rooted) (hm : State.Moves t s a s') {flight : Flight}
    (hf : s'.flights[f]? = some flight) (hp : flight.outcome = some (.ready p)) : s'.Traced f p := by
  have he := hm.extends
  cases hm.flightFrom hf with
  | same hi => exact (hs.flight f flight p hi hp).mono he
  | opened => cases hp
  | closed hc hq hb =>
    rcases Flight.outcome_write hp with hp | rfl
    · exact (hs.flight f _ p hb hp).mono he
    · exact (hs.call _ _ f p _ hc hq).mono he
  | filled hrenewal hq hb =>
    rcases Flight.outcome_write hp with hp | rfl
    · exact (hs.flight _ _ p hb hp).mono he
    · exact (hs.renewal _ _ p _ hrenewal hq).mono he

theorem step_call (hs : s.Rooted) (hr : Reachable t s) (hm : State.Moves t s a s') {c : CallId}
    {call : Call} {exit : Exit} (hc : s'.calls[c]? = some call)
    (hp : call.point = .closing f (.ready p) exit) : s'.Traced f p := by
  have he := hm.extends
  cases hm.callFrom hc with
  | same hi => exact (hs.call c call f p exit hi hp).mono he
  | added hq => rcases hq with rfl | ⟨fault, rfl⟩ <;> cases hp
  | @flagged _ before hi => exact (hs.call c before f p exit hi hp).mono he
  | @decided _ _ _ d => cases d <;> cases hp
  | walked hi hw hh =>
    cases hw with
    | @answered _ token _ hq ht =>
      cases hp
      obtain ⟨now, hd⟩ := hr.driving_decided hi (by rw [hq]; rfl)
      exact ⟨f, token, .acquired (he.history.subset hd) (by simp [hh]), Pass.ofToken?_eq ht⟩
    | _ => cases hp
  | closed => cases hp
  | launched _ _ _ hstart => cases hstart <;> cases hp

theorem step_previous (hs : s.Rooted) (hr : Reachable t s) (hm : State.Moves t s a s')
    {r : RenewalId} {renewal : Renewal} (h : s'.renewals[r]? = some renewal) :
    s'.Traced renewal.source renewal.previous := by
  have he := hm.extends
  rcases hm.renewal_before_or h with ⟨q, hb⟩ | ⟨_, _, _, -, hc, hp, -⟩
  · exact (hs.previous r _ hb).mono he
  · obtain ⟨before, now, hd⟩ := hr.launching_decided hc hp
    have hready : Outcome.ready _ ∈ written before _ := hd.found.1 ▸ List.mem_singleton_self _
    exact (hs.outcome (hr.outcome_of_written hd hready)).mono he

theorem step_renewal (hs : s.Rooted) (hr : Reachable t s) (hm : State.Moves t s a s')
    {r : RenewalId} {renewal : Renewal} {ending : Ending} (h : s'.renewals[r]? = some renewal)
    (hp : renewal.point = .closing (.ready p) ending) : s'.Traced renewal.flight p := by
  have he := hm.extends
  have hprevious := hs.step_previous hr hm h
  -- a renewal that keeps its pass hands on what its source holds
  have hkept : ∀ {lines now reason}, s'.history = s.history ++ lines →
      Happening.kept r now reason ∈ lines ∧ p.header = renewal.previous.header ∧
        p.expiry = renewal.previous.expiry → s'.Traced renewal.flight p := by
    intro lines now reason hh ⟨hk, hheader, hexpiry⟩
    obtain ⟨g, token, hstems, hcarries⟩ := hprevious
    have hl : Happening.kept r now reason ∈ s'.history := by simp [hh, hk]
    exact ⟨g, token, .kept h hl hstems, hcarries.congr hheader hexpiry⟩
  cases hm.renewalFrom h with
  | same hi => exact (hs.renewal r renewal p ending hi hp).mono he
  | started _ _ _ hs _ hh =>
    cases hs with
    | hosted => cases hp
    | alone hk => exact hkept hh (hk.line hp)
  | walked hi hw hh =>
    cases hw with
    | @answered token _ _ _ ht =>
      cases hp
      exact ⟨_, token, .renewed h (by simp [hh]), Pass.ofToken?_eq ht⟩
    | refused _ hk =>
      obtain ⟨hl, hsame⟩ := hk.line hp
      exact hkept hh ⟨List.mem_cons_of_mem _ hl, hsame⟩
    | expire _ hk => exact hkept hh (hk.line hp)
    | begin | ask | unfit | abandon => cases hp
  | closed => cases hp
  | counted => cases hp

end State.Rooted

theorem Reachable.rooted (hr : Reachable t s) : s.Rooted :=
  hr.induct (P := State.Rooted) ⟨by simp, by simp, by simp, by simp⟩ fun _ _ _ hx hm ih =>
    ⟨fun _ _ _ hf hp => ih.step_flight hm hf hp, fun _ _ _ _ _ hc hp => ih.step_call hx hm hc hp,
      fun _ _ h => ih.step_previous hx hm h, fun _ _ _ _ h hp => ih.step_renewal hx hm h hp⟩

/-- The pass of a flight carries a token that the credential gave to the flight that it stems from. -/
theorem Reachable.traced (hr : Reachable t s) (ho : s.outcome? f = some (.ready p)) :
    s.Traced f p := hr.rooted.outcome ho

/-! ## Fresh headers -/

theorem State.mode?_eq_some {m : Mode} : s.mode? f = some m ↔
    ∃ flight : Flight, s.flights[f]? = some flight ∧ flight.mode = m := by
  simp [State.mode?, Option.map_eq_some_iff]

def Decision.role? : Decision → Option (FlightId × Mode)
  | .acquire f | .wait f => some (f, .synchronous)
  | .renew f _ _ => some (f, .background)
  | .serve _ _ => none

theorem Reachable.decided_role (hr : Reachable t s) {c : CallId} {now : Instant} {d : Decision}
    {m : Mode} (hl : Happening.decided c now d ∈ s.history) (hd : d.role? = some (f, m)) :
    s.mode? f = some m := by
  refine hr.induct (P := fun x => Happening.decided c now d ∈ x.history → x.mode? f = some m)
    (by simp) (fun a x y hx hm ih => ?_) hl
  intro hl
  have he := hm.extends
  cases hm.lineFrom hl with
  | same hl => exact State.mode?_mono (ih hl) he
  | decided _ _ hdec _ ho =>
    cases d with
    | acquire g =>
      cases hd
      obtain rfl : f = x.flights.length := hdec.opens (.inl rfl)
      exact State.mode?_eq_some.mpr ⟨_, ho .synchronous rfl, rfl⟩
    | wait g =>
      cases hd
      exact (hdec.placed hx.sound he ho).2
    | renew g source pass =>
      cases hd
      obtain rfl : f = x.flights.length := hdec.opens (.inr ⟨source, pass, rfl⟩)
      exact State.mode?_eq_some.mpr ⟨_, ho .background rfl, rfl⟩
    | serve => cases hd
  | walked _ hw hl => exact (hw.aside _ hl).elim
  | started _ _ _ hs hl => exact (hs.aside _ hl).elim
  | walkedRenewal _ hw hl => exact (hw.aside _ hl).elim

/-- Behind a renewal is the decision of the call that started it. -/
theorem Reachable.renewal_decided (hr : Reachable t s) {r : RenewalId} {renewal : Renewal}
    (h : s.renewals[r]? = some renewal) : ∃ c now,
      .decided c now (.renew renewal.flight renewal.source renewal.previous) ∈ s.history := by
  refine hr.induct (P := fun x => ∀ renewal : Renewal, x.renewals[r]? = some renewal → ∃ c now,
    .decided c now (.renew renewal.flight renewal.source renewal.previous) ∈ x.history) (by simp)
    (fun a x y hx hm ih => ?_) renewal h
  intro renewal h
  have hsub := hm.extends.history.subset
  rcases hm.renewal_before_or h with ⟨q, hb⟩ | ⟨c, _, _, -, hc, hp, -⟩
  · obtain ⟨c, now, hl⟩ := ih _ hb
    exact ⟨c, now, hsub hl⟩
  · obtain ⟨_, now, hd⟩ := hx.launching_decided hc hp
    exact ⟨c, now, hsub hd.mem⟩

theorem Reachable.renewal_background (hr : Reachable t s) {r : RenewalId} {renewal : Renewal}
    (h : s.renewals[r]? = some renewal) : s.mode? renewal.flight = some .background := by
  obtain ⟨c, now, hl⟩ := hr.renewal_decided h
  exact hr.decided_role hl rfl

/-- What a call's flight holds stems from that very flight. -/
theorem Reachable.stems_self (hr : Reachable t s) {g : FlightId} {token : Token}
    (hs : s.Stems f g token) (hm : s.mode? f = some .synchronous) : g = f := by
  cases hs with
  | acquired => rfl
  | renewed => rfl
  | kept h => cases (hr.renewal_background h).symm.trans hm

/-- The flight of the last decision has the pass whose header a call has returned. -/
theorem Reachable.supplied (hr : Reachable t s) {c : CallId} {call : Call} {header : String}
    (hc : s.calls[c]? = some call) (hp : call.point = .done (.returned (.ok header))) :
    ∃ before now d pass, s.Decided c before now d ∧ s.outcome? d.source = some (.ready pass) ∧
      pass.header = header ∧ ((d = .acquire d.source ∨ d = .wait d.source) ∧ written before d.source = [] ∨
        written before d.source = [.ready pass] ∧ now < pass.expiry) := by
  have hnot : ¬ Call.Idles call.cancelled call.point := by
    rw [hp]
    exact nofun
  obtain ⟨before, now, d, hd, hf⟩ := hr.follows hc hnot
  have hfound := hd.found
  rcases hf.supplied hp with ⟨f, pass, hdec, ho, hheader⟩ | ⟨source, pass, hdec, hheader⟩
  · refine ⟨before, now, d, pass, hd, ?_⟩
    rcases hdec with rfl | rfl
    · exact ⟨ho, hheader, .inl ⟨.inl rfl, hfound⟩⟩
    · exact ⟨ho, hheader, .inl ⟨.inr rfl, hfound⟩⟩
  · refine ⟨before, now, d, pass, hd, ?_⟩
    rcases hdec with rfl | ⟨f, rfl⟩
    · exact ⟨hr.outcome_of_written hd (hfound.1 ▸ List.mem_singleton_self _), hheader, .inr hfound⟩
    · exact ⟨hr.outcome_of_written hd (hfound.1 ▸ List.mem_singleton_self _), hheader, .inr hfound⟩

/-- The header carries a token that was good at the clock reading of the call's last decision, or one
that its own request, or the one it waited on, had yet to bring then. -/
def State.Fresh (s : State) (c : CallId) (header : String) : Prop :=
  ∃ before now d g token, s.Decided c before now d ∧ s.Stems d.source g token ∧
    header = "Bearer " ++ token.secret.value ∧
      ((∃ pass, written before d.source = [.ready pass] ∧ pass.Carries token) ∧
          now < token.expiry.instant ∨
        written before d.source = [] ∧ (d = .acquire d.source ∨ d = .wait d.source) ∧ g = d.source)

/-- What a call returns is fresh. -/
theorem Reachable.returns_fresh (hr : Reachable t s) {c : CallId} {call : Call} {header : String}
    (hc : s.calls[c]? = some call) (hp : call.point = .done (.returned (.ok header))) :
    s.Fresh c header := by
  obtain ⟨before, now, d, pass, hd, ho, rfl, hcase⟩ := hr.supplied hc hp
  obtain ⟨g, token, hstems, hcarries⟩ := hr.traced ho
  refine ⟨before, now, d, g, token, hd, hstems, hcarries.1, ?_⟩
  rcases hcase with ⟨hdec, hopen⟩ | ⟨hready, hgood⟩
  · have hmode : s.mode? d.source = some .synchronous := by
      rcases hdec with hdec | hdec <;> exact hr.decided_role hd.mem (by rw [hdec]; rfl)
    exact .inr ⟨hopen, hdec, hr.stems_self hstems hmode⟩
  · exact .inl ⟨⟨pass, hready, hcarries⟩, hcarries.2 ▸ hgood⟩

/-- Two calls share a request whose token has expired by the time that it is there. -/
def waitedRow : List Action :=
  [.call {} .async false true, .call {} .async false true, .decide 0 ⟨0⟩, .decide 1 ⟨0⟩, .enter 0,
    .ask 0, .answer 0 (.ok (.ofText "T1" ⟨0⟩)), .close 0, .resume 1]

theorem returns_fresh_waitedRow : ∃ s call, State.run? {} {} waitedRow = some s ∧
    s.calls[1]? = some call ∧ call.point = .done (.returned (.ok "Bearer T1")) ∧
      s.Fresh 1 "Bearer T1" := by
  obtain ⟨s, call, h, hc, hp⟩ : ∃ s call, State.run? {} {} waitedRow = some s ∧
      s.calls[1]? = some call ∧ call.point = .done (.returned (.ok "Bearer T1")) :=
    ⟨_, _, rfl, rfl, rfl⟩
  exact ⟨s, call, h, hc, hp, Reachable.returns_fresh ⟨_, h⟩ hc hp⟩

end Cache

end BearerTokens
