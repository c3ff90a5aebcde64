import BearerTokens.Proofs.Cache.Renewals
import BearerTokens.Proofs.Cache.Requests

/-! # Renewals that fail

As long as every renewal fails, the cache serves copies of one pass: the header and the expiry stay,
only the time of the next renewal moves.  Calls that decide before the expiry return the header and
make no request; a call that decides at the expiry or later acquires.
-/

namespace BearerTokens

/-- The passes differ at most in the time of their renewal. -/
def Pass.Copies (q p : Pass) : Prop := q.header = p.header ∧ q.expiry = p.expiry

theorem Pass.Copies.refl (p : Pass) : p.Copies p := ⟨rfl, rfl⟩

theorem Pass.Copies.trans {p q r : Pass} (h : r.Copies q) (k : q.Copies p) : r.Copies p :=
  ⟨h.1.trans k.1, h.2.trans k.2⟩

theorem Pass.Copies.expiredAt_eq {p q : Pass} (h : q.Copies p) (now : Instant) :
    q.expiredAt now = p.expiredAt now := by
  simp [Pass.expiredAt, h.2]

def Outcome.Copies (o : Outcome) (p : Pass) : Prop := ∀ q, o = .ready q → q.Copies p

namespace Cache

variable {t : Timing} {s s' : State} {n : Nat} {stored context : Context} {p : Pass}

/-! ## The holding -/

/-- The cache holds a copy of the pass, with a renewal on standby that is not older than a given
flight. -/
structure Holding.Steady (s : State) (n : FlightId) (stored : Context) (p : Pass) (h : Holding) :
    Prop where
  context : h.context = some stored
  current : ∃ g q, h.current = some g ∧ s.outcome? g = some (.ready q) ∧ q.Copies p
  standby (f : FlightId) : h.standby = some f → n ≤ f

namespace Holding

variable {h h' m : Holding} {now : Instant} {d : Decision}

theorem Steady.mono (hs : h.Steady s n stored p) (he : Extends s s') :
    h.Steady s' n stored p := by
  obtain ⟨g, q, hg, ho, hq⟩ := hs.current
  exact ⟨hs.context, ⟨g, q, hg, he.outcome ho, hq⟩, hs.standby⟩

/-- What is promoted is a copy again. -/
theorem Promotes.steady (hm : Promotes s.outcome? now h m) (hs : h.Steady s n stored p)
    (hcopies : ∀ f o, n ≤ f → s.outcome? f = some o → o.Copies p) : m.Steady s n stored p := by
  cases hm with
  | kept => exact hs
  | promoted hf ho => exact ⟨hs.context, ⟨_, _, rfl, ho, hcopies _ _ (hs.standby _ hf) ho _ rfl⟩, nofun⟩
  | forgotten => exact ⟨hs.context, hs.current, nofun⟩

/-- What is held can be used until the pass expires. -/
theorem Steady.expiry_le (hs : m.Steady s n stored p) (hu : m.usable s.outcome? now = none) :
    p.expiry ≤ now := by
  obtain ⟨g, q, hg, ho, hq⟩ := hs.current
  by_contra hnot
  have hgood : q.expiredAt now = false := by
    rw [hq.expiredAt_eq, Pass.expiredAt_eq_false_iff]
    exact Instant.not_le.mp hnot
  rw [usable_eq_some.mpr ⟨hg, ho, hgood⟩] at hu
  cases hu

/-- What is used is a copy of the pass, and the pass is good. -/
theorem Steady.usable_copies {g : FlightId} {q : Pass} (hs : m.Steady s n stored p)
    (hu : m.usable s.outcome? now = some (g, q)) : q.Copies p ∧ now < p.expiry := by
  obtain ⟨g', q', hg, ho, hq⟩ := hs.current
  obtain ⟨hcur, hready, hgood⟩ := usable_eq_some.mp hu
  cases hcur.symm.trans hg
  cases hready.symm.trans ho
  rw [hq.expiredAt_eq] at hgood
  exact ⟨hq, Pass.expiredAt_eq_false_iff.mp hgood⟩

/-- A call for an equivalent context is served before the pass expires and acquires after. -/
theorem Decides.steady (hd : h.Decides s.outcome? s.flights.length context now h' d)
    (hs : h.Steady s n stored p) (he : stored.Equivalent context) (hn : n ≤ s.flights.length)
    (hcopies : ∀ f o, n ≤ f → s.outcome? f = some o → o.Copies p) :
    (d = .acquire s.flights.length ∧ p.expiry ≤ now) ∨
      (now < p.expiry ∧ h'.Steady s n stored p ∧ ∃ source q, q.Copies p ∧
        (d = .serve source q ∨ d = .renew s.flights.length source q)) := by
  obtain ⟨g, q, hg, ho, hq⟩ := hs.current
  cases hd with
  | anew hnot => exact absurd he (hnot stored g hs.context hg)
  | wait _ _ hf hopen =>
    cases hg.symm.trans hf
    rw [ho] at hopen
    cases hopen
  | lapsed _ _ _ _ hm hu => exact .inl ⟨rfl, (hm.steady hs hcopies).expiry_le hu⟩
  | @renew _ _ source _ q m _ _ _ _ hm hu =>
    have hsteady := hm.steady hs hcopies
    obtain ⟨hq, hlt⟩ := hsteady.usable_copies hu
    refine .inr ⟨hlt, ⟨hsteady.context, hsteady.current, ?_⟩, source, q, hq, .inr rfl⟩
    rintro _ ⟨⟩
    exact hn
  | @serve _ _ source _ q m _ _ _ _ hm hu =>
    have hsteady := hm.steady hs hcopies
    obtain ⟨hq, hlt⟩ := hsteady.usable_copies hu
    exact .inr ⟨hlt, hsteady, source, q, hq, .inl rfl⟩

end Holding

/-! ## The state -/

theorem Renewal.Keeps.copies {r : RenewalId} {renewal : Renewal} {now : Instant}
    {delay : Duration} {reason : Reason} {error : String} {q : Renewal.Point}
    {lines : List Happening} (hk : renewal.Keeps r now delay reason error q lines)
    (hp : renewal.previous.Copies p) {o : Outcome} {ending : Ending}
    (hq : q = .closing o ending) : o.Copies p := by
  cases hk with
  | kept hd =>
    cases hq
    rintro _ ⟨⟩
    exact Pass.Copies.trans (Pass.deferred?_eq hd) hp
  | lost =>
    cases hq
    exact nofun

namespace State

/-- The flights from a given number on are those of renewals that can only copy the pass. -/
structure Steady (s : State) (n : FlightId) (stored : Context) (p : Pass) : Prop where
  holding : s.holding.Steady s n stored p
  length : n ≤ s.flights.length
  flight (f : FlightId) (flight : Flight) : n ≤ f → s.flights[f]? = some flight →
    flight.mode = .background ∧ ∀ o, flight.outcome = some o → o.Copies p
  launching (c : CallId) (call : Call) (f source : FlightId) (q : Pass) : n ≤ f →
    s.calls[c]? = some call → call.point = .launching f source q → q.Copies p
  renewal (r : RenewalId) (renewal : Renewal) : n ≤ renewal.flight →
    s.renewals[r]? = some renewal → renewal.previous.Copies p ∧
      ∀ o ending, renewal.point = .closing o ending → o.Copies p

variable {a : Action}

theorem Steady.copies (hs : s.Steady n stored p) (f : FlightId) (o : Outcome) (hf : n ≤ f)
    (ho : s.outcome? f = some o) : o.Copies p := by
  obtain ⟨flight, hfl, hfo⟩ := Option.bind_eq_some_iff.mp ho
  exact (hs.flight f flight hf hfl).2 o hfo

/-- What a call decides while the pass is good. -/
theorem Steady.decided (hs : s.Steady n stored p) {now : Instant} {h' : Holding} {d : Decision}
    (hd : s.holding.Decides s.outcome? s.flights.length context now h' d)
    (he : stored.Equivalent context) (hlt : now < p.expiry) :
    h'.Steady s n stored p ∧ ∃ source q, q.Copies p ∧
      (d = .serve source q ∨ d = .renew s.flights.length source q) := by
  rcases hd.steady hs.holding he hs.length hs.copies with ⟨-, hle⟩ | ⟨-, hsteady⟩
  · exact absurd hle (Instant.not_le.mpr hlt)
  · exact hsteady

theorem Steady.step_flight (hs : s.Steady n stored p) (hr : Reachable t s) (hm : Moves t s a s')
    (hdecide : ∀ c now, a = .decide c now → now < p.expiry ∧
      ∀ call : Call, s.calls[c]? = some call → stored.Equivalent call.context)
    {f : FlightId} {flight : Flight} (hf : n ≤ f) (hfl : s'.flights[f]? = some flight) :
    flight.mode = .background ∧ ∀ o, flight.outcome = some o → o.Copies p := by
  cases hm.flightFrom hfl with
  | same hi => exact hs.flight f flight hf hi
  | opened hc _ hd hm =>
    obtain ⟨hlt, hequiv⟩ := hdecide _ _ rfl
    obtain ⟨-, source, q, -, rfl | rfl⟩ := hs.decided hd (hequiv _ hc) hlt
    · cases hm
    · cases hm
      exact ⟨rfl, nofun⟩
  | @closed c call _ o exit before hc hp hb =>
    -- the flight of a call is older
    cases (hr.matched.closing hc hp hb).1.symm.trans (hs.flight f before hf hb).1
  | @filled r renewal o ending before hrenewal hp hb =>
    obtain ⟨hmode, hold⟩ := hs.flight _ before hf hb
    refine ⟨hmode, fun o' ho' => ?_⟩
    cases hbo : before.outcome with
    | some _ =>
      rw [Flight.outcome_write_of_some hbo] at ho'
      exact hold o' (hbo.trans ho')
    | none =>
      rw [Flight.outcome_write_of_none hbo] at ho'
      cases ho'
      exact (hs.renewal r renewal hf hrenewal).2 _ _ hp

theorem Steady.step_launching (hs : s.Steady n stored p) (hm : Moves t s a s')
    (hdecide : ∀ c now, a = .decide c now → now < p.expiry ∧
      ∀ call : Call, s.calls[c]? = some call → stored.Equivalent call.context)
    {c : CallId} {call : Call} {f source : FlightId} {q : Pass} (hf : n ≤ f)
    (hc : s'.calls[c]? = some call) (hp : call.point = .launching f source q) : q.Copies p := by
  cases hm.callFrom hc with
  | same hi => exact hs.launching c call f source q hf hi hp
  | added hq => rcases hq with rfl | ⟨fault, rfl⟩ <;> cases hp
  | @flagged _ before hi => exact hs.launching c before f source q hf hi hp
  | decided hi _ hd =>
    obtain ⟨hlt, hequiv⟩ := hdecide _ _ rfl
    obtain ⟨-, source', q', hq', rfl | rfl⟩ := hs.decided hd (hequiv _ hi) hlt
    · cases hp
    · cases hp
      exact hq'
  | walked _ hw => cases hw <;> cases hp
  | closed => cases hp
  | launched _ _ _ hstart => cases hstart <;> cases hp

theorem Steady.step_renewal (hs : s.Steady n stored p) (hm : Moves t s a s')
    (hfail : ∀ r token now renewal, a = .answerRenewal r (.ok token) now →
      s.renewals[r]? = some renewal → renewal.flight < n)
    {r : RenewalId} {renewal : Renewal} (hf : n ≤ renewal.flight)
    (h : s'.renewals[r]? = some renewal) : renewal.previous.Copies p ∧
      ∀ o ending, renewal.point = .closing o ending → o.Copies p := by
  cases hm.renewalFrom h with
  | same hi => exact hs.renewal r renewal hf hi
  | started hc hp hrenewal hstart =>
    subst hrenewal
    have hprev := hs.launching _ _ _ _ _ hf hc hp
    cases hstart with
    | hosted => exact ⟨hprev, nofun⟩
    | alone hk => exact ⟨hprev, fun o ending hq => hk.copies hprev hq⟩
  | @walked _ _ before _ _ hi hw =>
    have hprev := (hs.renewal r before hf hi).1
    refine ⟨hprev, fun o ending hq => ?_⟩
    cases hw with
    | answered =>
      have hold := hfail _ _ _ before rfl hi
      exact absurd hf (Nat.not_le.mpr hold)
    | refused _ hk => exact hk.copies hprev hq
    | expire _ hk => exact hk.copies hprev hq
    | begin | ask => cases hq
    | unfit | abandon =>
      cases hq
      exact nofun
  | @closed _ before _ _ hi => exact ⟨(hs.renewal r before hf hi).1, nofun⟩
  | @counted _ before _ hi => exact ⟨(hs.renewal r before hf hi).1, nofun⟩

theorem Steady.step (hs : s.Steady n stored p) (hr : Reachable t s) (hm : Moves t s a s')
    (hdecide : ∀ c now, a = .decide c now → now < p.expiry ∧
      ∀ call : Call, s.calls[c]? = some call → stored.Equivalent call.context)
    (hfail : ∀ r token now renewal, a = .answerRenewal r (.ok token) now →
      s.renewals[r]? = some renewal → renewal.flight < n) : s'.Steady n stored p := by
  refine ⟨?_, ?_, fun f flight hf hfl => hs.step_flight hr hm hdecide hf hfl,
    fun c call f source q hf hc hp => hs.step_launching hm hdecide hf hc hp,
    fun r renewal hf h => hs.step_renewal hm hfail hf h⟩
  · cases hm.holdingFrom with
    | same hh => exact hh ▸ hs.holding.mono hm.extends
    | decided hc _ hd =>
      obtain ⟨hlt, hequiv⟩ := hdecide _ _ rfl
      exact (hs.decided hd (hequiv _ hc) hlt).1.mono hm.extends
  · exact Nat.le_trans hs.length hm.extends.length_le

end State

/-! ## The calls -/

/-- A call at this point has nothing left to do but to start a renewal, and then returns the
header. -/
def Call.Point.Serves (header : String) : Call.Point → Prop
  | .launching _ _ q => q.header = header
  | .settling _ exit | .done exit => exit = .returned (.ok header)
  | _ => False

namespace State

variable {c : CallId} {call : Call} {header : String} {a : Action}

structure Serves (s : State) (c : CallId) (header : String) : Prop where
  point : ∃ call, s.calls[c]? = some call ∧ call.point.Serves header
  unasked (context : Context) : Happening.asked (.call c) context ∉ s.history

theorem Serves.step (hs : s.Serves c header) (hm : Moves t s a s')
    (hretry : ∀ now, a = .settle c now → (now.after? t.retry).isSome) :
    s'.Serves c header := by
  obtain ⟨⟨call, hc, hp⟩, hn⟩ := hs
  obtain ⟨call', hc', -⟩ := hm.extends.call c call hc
  have hp' : call'.point.Serves header := by
    cases hm.callFrom hc' with
    | same hi => cases hc.symm.trans hi; exact hp
    | added => simp at hc
    | flagged hi => cases hc.symm.trans hi; exact hp
    | decided hi hq => cases hc.symm.trans hi; rw [hq] at hp; exact hp.elim
    | walked hi hw =>
      cases hc.symm.trans hi
      cases hw with
      | finish hq =>
        rw [hq] at hp
        exact hp
      | withdraw _ hq => rcases hq with hq | hq <;> (rw [hq] at hp; exact hp.elim)
      | dropIdle _ hq => rcases hq with hq | ⟨f, hq⟩ <;> (rw [hq] at hp; exact hp.elim)
      | enter hq | ask hq | answered hq | unfit hq | refused hq | crash hq | withdrawEarly _ _ hq
      | withdrawWaiting _ hq | again hq | share hq | drop _ hq =>
        rw [hq] at hp
        exact hp.elim
    | closed hi hq => cases hc.symm.trans hi; rw [hq] at hp; exact hp.elim
    | launched hi hq hrenewal hstart =>
      cases hc.symm.trans hi
      rw [hq] at hp
      subst hrenewal
      cases hstart with
      | hosted => exact congrArg (fun h => Exit.returned (.ok h)) hp
      | alone _ hexit =>
        obtain ⟨later, hlater⟩ := Option.isSome_iff_exists.mp (hretry _ rfl)
        rw [hexit]
        simp only [Pass.deferred?, hlater, Option.map_some, Option.isSome_some, if_true]
        exact congrArg (fun h => Exit.returned (.ok h)) hp
  refine ⟨⟨call', hc', hp'⟩, fun context hl => ?_⟩
  rcases hm.asked hl with hl | ⟨-, asker, f, hasker, hq⟩
  · exact hn context hl
  · cases hc'.symm.trans hasker
    rw [hq] at hp'
    exact hp'

/-! ## Calls return -/

def servedActions (c : CallId) (r : RenewalId) (hosted : Bool) (later : Instant) : List Action :=
  [if hosted then .launch c else .settle c later, .closeRenewal r, .countRenewal r, .finish c]

/-- The call can return the header, and nobody else has to act. -/
def Returns (t : Timing) (s : State) (c : CallId) (r : RenewalId) (hosted : Bool) (later : Instant)
    (header : String) : Prop :=
  s.Attains t (servedActions c r hosted later) fun x =>
    ∃ call, x.calls[c]? = some call ∧ call.point = .done (.returned (.ok header))

variable {r : RenewalId} {renewal : Renewal} {hosted : Bool} {later : Instant}

theorem returns_done (hc : s.calls[c]? = some call)
    (hp : call.point = .done (.returned (.ok header))) : s.Returns t c r hosted later header :=
  .now ⟨call, hc, hp⟩

theorem returns_settled {ending : Ending} (hc : s.calls[c]? = some call)
    (hp : call.point = .settling r (.returned (.ok header))) (h : s.renewals[r]? = some renewal)
    (hq : renewal.point = .settled ending) : s.Returns t c r hosted later header :=
  .of_step (by simp [servedActions]) (Call.Walks.step (.finish hp h hq) hc)
    (returns_done (moveCall_self (by exact hc)) rfl)

theorem returns_written {ending : Ending} (hc : s.calls[c]? = some call)
    (hp : call.point = .settling r (.returned (.ok header))) (h : s.renewals[r]? = some renewal)
    (hq : renewal.point = .written ending) : s.Returns t c r hosted later header := by
  refine .of_step (by simp [servedActions]) (step_countRenewal h hq) ?_
  obtain ⟨hcalls, hrenewals, -⟩ := countEnding_eq (s := s) ending
  exact returns_settled (hcalls ▸ hc) hp (moveRenewal_self (hrenewals ▸ h)) rfl

theorem returns_closing {o : Outcome} {ending : Ending} (hc : s.calls[c]? = some call)
    (hp : call.point = .settling r (.returned (.ok header))) (h : s.renewals[r]? = some renewal)
    (hq : renewal.point = .closing o ending) : s.Returns t c r hosted later header := by
  refine .of_step (by simp [servedActions]) (step_closeRenewal h hq) ?_
  exact returns_written (by exact hc) hp (moveRenewal_self (by exact h)) rfl

theorem returns_settling (hc : s.calls[c]? = some call)
    (hp : call.point = .settling r (.returned (.ok header))) (h : s.renewals[r]? = some renewal)
    (he : renewal.point.Ended) : s.Returns t c r hosted later header := by
  cases hq : renewal.point with
  | closing o ending => exact returns_closing hc hp h hq
  | written ending => exact returns_written hc hp h hq
  | settled ending => exact returns_settled hc hp h hq
  | queued | calling | asking =>
    rw [hq] at he
    exact he.elim

theorem returns_launching {f source : FlightId} {q : Pass} (hc : s.calls[c]? = some call)
    (hp : call.point = .launching f source q)
    (hlater : call.hosted = true ∨ (later.after? t.retry).isSome) :
    s.Returns t c s.renewals.length call.hosted later q.header := by
  rcases Bool.eq_false_or_eq_true call.hosted with hh | hh
  · refine .of_step (by simp [servedActions, hh]) (step_launchCall hc hp hh) ?_
    exact returns_done (moveCall_self (by exact hc)) rfl
  · obtain ⟨x, hx⟩ := step_settleCall (t := t) hc hp hh later
    refine .of_step (by simp [servedActions, hh]) hx ?_
    cases step_moves hx with
    | walk _ hw => cases hw
    | walkRenewal _ hw => cases hw
    | launch hc' hp' hrenewal hstart =>
      cases hstart with
      | alone hk hexit =>
        cases hc.symm.trans hc'
        cases hp.symm.trans hp'
        subst hrenewal
        obtain ⟨i, hi⟩ := Option.isSome_iff_exists.mp (hlater.resolve_left (by simp [hh]))
        have hgood : (q.deferred? later t.retry).isSome = true := by simp [Pass.deferred?, hi]
        rw [if_pos hgood] at hexit
        subst hexit
        refine returns_settling (moveCall_self (by exact hc)) rfl (List.getElem?_concat_length ..) ?_
        exact hk.ended

/-- A call that has been served returns the header by itself. -/
theorem Serves.returns (hr : Reachable t s) (hs : s.Serves c header) (hc : s.calls[c]? = some call)
    (hlater : call.hosted = true ∨ (later.after? t.retry).isSome) :
    ∃ r, s.Returns t c r call.hosted later header := by
  obtain ⟨⟨call', hc', hp⟩, -⟩ := hs
  cases hc.symm.trans hc'
  cases hq : call.point with
  | launching f source q =>
    rw [hq] at hp
    obtain rfl : q.header = header := hp
    exact ⟨_, returns_launching hc hq hlater⟩
  | settling r exit =>
    rw [hq] at hp
    obtain rfl : exit = .returned (.ok header) := hp
    obtain ⟨renewal, h, he⟩ := hr.settling_ended hc hq
    exact ⟨r, returns_settling hc hq h he⟩
  | done exit =>
    rw [hq] at hp
    obtain rfl : exit = .returned (.ok header) := hp
    exact ⟨0, returns_done hc hq⟩
  | deciding | opening _ | calling _ | asking _ | closing _ _ _ | waiting _ =>
    rw [hq] at hp
    exact hp.elim

end State

/-! ## Rows in which renewals fail -/

structure State.Endures (t : Timing) (s : State) (stored : Context) (p : Pass)
    (actions : List Action) (s' : State) : Prop where
  /-- Whatever has been promoted has the same header and expiry. -/
  current : ∃ g q, s'.holding.current = some g ∧ s'.outcome? g = some (.ready q) ∧ q.Copies p
  /-- No call has acquired. -/
  opened (f : FlightId) (flight : Flight) : s.flights.length ≤ f → s'.flights[f]? = some flight →
    flight.mode = .background
  /-- A call that has decided is served the header and has made no request. -/
  served (c : CallId) (now : Instant) : .decide c now ∈ actions → s'.Serves c p.header
  returns (c : CallId) (call : Call) (now later : Instant) : .decide c now ∈ actions →
    s'.calls[c]? = some call → call.hosted = true ∨ (later.after? t.retry).isSome →
    ∃ r, s'.Returns t c r call.hosted later p.header
  /-- A call that decides at the expiry or later acquires. -/
  lapses (context : Context) (now : Instant) : stored.Equivalent context → p.expiry ≤ now →
    (s'.holding.decide s'.outcome? s'.flights.length context now).2 = .acquire s'.flights.length

/-- A pass with nothing on standby is copied at most by renewals that begin later. -/
theorem Reachable.steady_start (hr : Reachable t s) {f : FlightId}
    (hctx : s.holding.context = some stored) (hf : s.holding.current = some f)
    (ho : s.outcome? f = some (.ready p)) (hs : s.holding.standby = none) :
    s.Steady s.flights.length stored p := by
  refine ⟨⟨hctx, ⟨f, p, hf, ho, .refl p⟩, ?_⟩, Nat.le_refl _, ?_, ?_, ?_⟩
  · intro g hg
    rw [hs] at hg
    cases hg
  · intro g flight hg hfl
    exact absurd (List.getElem?_eq_some_iff.mp hfl).1 (Nat.not_lt.mpr hg)
  · intro c call g source q hg hc hp
    have hplaced := hr.placed hc
    rw [hp] at hplaced
    exact absurd (State.Seeks.lt_length hplaced) (Nat.not_lt.mpr hg)
  · intro r renewal hg h
    exact absurd (hr.renewal_seeks h).lt_length (Nat.not_lt.mpr hg)

/-- While all renewals fail, the pass that is served keeps its header and its expiry; calls that decide
before the expiry return the header, and the first that decides later acquires. -/
theorem Reachable.endures (hr : Reachable t s) {f : FlightId}
    (hctx : s.holding.context = some stored) (hf : s.holding.current = some f)
    (ho : s.outcome? f = some (.ready p)) (hs : s.holding.standby = none) {actions : List Action}
    (h : s.run? t actions = some s')
    (hdecide : ∀ c now, .decide c now ∈ actions → now < p.expiry ∧
      ∀ call : Call, s'.calls[c]? = some call → stored.Equivalent call.context)
    (hfail : ∀ r token now renewal, .answerRenewal r (.ok token) now ∈ actions →
      s'.renewals[r]? = some renewal → renewal.flight < s.flights.length)
    (hretry : ∀ c now, .settle c now ∈ actions → (now.after? t.retry).isSome) :
    State.Endures t s stored p actions s' := by
  have hend : Reachable t s' ∧ s'.Steady s.flights.length stored p ∧
      ∀ c now, .decide c now ∈ actions → s'.Serves c p.header := by
    refine State.run_induction_on (P := fun before x => Reachable t x ∧
      x.Steady s.flights.length stored p ∧
        ∀ c now, .decide c now ∈ before → x.Serves c p.header) h
      ⟨hr, hr.steady_start hctx hf ho hs, by simp⟩ ?_
    rintro before a x y ha - hstep hext ⟨hx, hsteady, hserves⟩
    have hm := State.step_moves hstep
    have hdecide' : ∀ c now, a = .decide c now → now < p.expiry ∧
        ∀ call : Call, x.calls[c]? = some call → stored.Equivalent call.context := by
      rintro c now rfl
      obtain ⟨hlt, hequiv⟩ := hdecide c now ha
      refine ⟨hlt, fun call hc => ?_⟩
      obtain ⟨call', hc', hsame, -⟩ := (hm.extends.trans hext).call c call hc
      exact hsame ▸ hequiv call' hc'
    have hfail' : ∀ r token now renewal, a = .answerRenewal r (.ok token) now →
        x.renewals[r]? = some renewal → renewal.flight < s.flights.length := by
      rintro r token now renewal rfl hrenewal
      obtain ⟨q, hq⟩ := (hm.extends.trans hext).renewal r renewal hrenewal
      exact hfail r token now { renewal with point := q } ha hq
    refine ⟨hx.step hstep, hsteady.step hx hm hdecide' hfail', fun c now hmem => ?_⟩
    rcases List.mem_append.mp hmem with hmem | hmem
    · exact (hserves c now hmem).step hm fun later hl => hretry c later (hl ▸ ha)
    · obtain rfl := List.mem_singleton.mp hmem
      obtain ⟨call, d, hc, -, hd, hc', -⟩ := hm.decided
      obtain ⟨hlt, hequiv⟩ := hdecide' c now rfl
      obtain ⟨-, source, q, hq, rfl | rfl⟩ := hsteady.decided hd (hequiv call hc) hlt
      · exact ⟨⟨_, hc', congrArg (fun v => Exit.returned (.ok v)) hq.1⟩, hx.decided_unasked hm⟩
      · exact ⟨⟨_, hc', hq.1⟩, hx.decided_unasked hm⟩
  obtain ⟨hr', hsteady, hserves⟩ := hend
  refine ⟨hsteady.holding.current, fun g flight hg hfl => (hsteady.flight g flight hg hfl).1,
    hserves, fun c call now later hmem hc hlater => (hserves c now hmem).returns hr' hc hlater,
    fun context now he hle => ?_⟩
  have hd : s'.holding.Decides s'.outcome? s'.flights.length context now
      (s'.holding.decide s'.outcome? s'.flights.length context now).1
      (s'.holding.decide s'.outcome? s'.flights.length context now).2 :=
    Holding.decide_decides rfl
  rcases hd.steady hsteady.holding he hsteady.length hsteady.copies with ⟨hacquire, -⟩ | ⟨hlt, -⟩
  · exact hacquire
  · exact absurd hle (Instant.not_le.mpr hlt)

def heldRow (hasRuntime : Bool) : List Action :=
  [.call {} .async true hasRuntime, .decide 0 ⟨0⟩, .enter 0, .ask 0,
    .answer 0 (.ok (.ofText "T1" ⟨600000000000⟩)), .close 0]

/-- A renewal is refused, one is dropped, and one has no runtime. -/
def failedRow : List Action :=
  [.call {} .async true false, .decide 1 ⟨400000000000⟩, .launch 1, .begin 0,
    .askRenewal 0, .answerRenewal 0 (.error (.unavailable "down")) ⟨400000000000⟩, .closeRenewal 0,
    .call {} .async true false, .decide 2 ⟨430000000000⟩, .launch 2, .abandon 1,
    .closeRenewal 1,
    .call {} .async false false, .decide 3 ⟨430000000000⟩, .settle 3 ⟨430000000000⟩]

theorem endures_failedRow : ∃ s s' p, State.run? {} {} (heldRow false) = some s ∧
    s.run? {} failedRow = some s' ∧ State.Endures {} s {} p failedRow s' := by
  obtain ⟨s, s', f, p, hheld, hfailed, hctx, hf, ho, hs, hexp, hcalls⟩ : ∃ s s' f p,
      State.run? {} {} (heldRow false) = some s ∧ s.run? {} failedRow = some s' ∧
      s.holding.context = some {} ∧ s.holding.current = some f ∧
      s.outcome? f = some (.ready p) ∧ s.holding.standby = none ∧
      p.expiry = ⟨600000000000⟩ ∧ s'.calls.map Call.context = [{}, {}, {}, {}] :=
    ⟨_, _, _, _, rfl, rfl, rfl, rfl, rfl, rfl, rfl, rfl⟩
  refine ⟨s, s', p, hheld, hfailed,
    Reachable.endures ⟨_, hheld⟩ hctx hf ho hs hfailed ?_ (by simp [failedRow]) ?_⟩
  · intro c now hmem
    refine ⟨?_, fun call hc => ?_⟩
    · rw [hexp]
      simp only [failedRow, List.mem_cons, List.not_mem_nil, reduceCtorEq, Action.decide.injEq,
        false_or, or_false] at hmem
      rcases hmem with ⟨-, rfl⟩ | ⟨-, rfl⟩ | ⟨-, rfl⟩ <;> decide
    · have hmem : call.context ∈ s'.calls.map Call.context :=
        List.mem_map_of_mem (List.mem_of_getElem? hc)
      rw [hcalls] at hmem
      simp only [List.mem_cons, List.not_mem_nil, or_false, or_self] at hmem
      rw [hmem]
      exact .refl _
  · intro c now hmem
    obtain ⟨-, rfl⟩ : c = 3 ∧ now = ⟨430000000000⟩ := by simpa [failedRow] using hmem
    decide

end Cache

end BearerTokens
