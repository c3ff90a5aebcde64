import BearerTokens.Proofs.Cache.Cycles
import BearerTokens.Proofs.Cache.Promptness

/-! # What every decision and every outcome leaves in order

A cache has a context exactly when it has a current flight.  A flight on standby is that of a renewal
beside a current flight with a pass: it is the newer of the two, it was opened by a call that found
this pass due and not expired, and it never fails.  No action needs more than this of the state before
it, so the invariant is carried from any state that has it, and an empty cache has it.
-/

namespace BearerTokens.Cache

variable {t : Timing} {s s' : State} {f : FlightId} {a : Action}

/-- After a decision something is held. -/
theorem Holding.Decides.context_eq_some {outcome? : FlightId → Option Outcome} {next : FlightId}
    {context : Context} {now : Instant} {h h' : Holding} {d : Decision}
    (hd : h.Decides outcome? next context now h' d) : ∃ stored, h'.context = some stored := by
  cases hd with
  | anew => exact ⟨_, rfl⟩
  | wait hc => exact ⟨_, hc⟩
  | lapsed hc _ _ _ hm | renew hc _ _ _ hm | serve hc _ _ _ hm =>
    exact ⟨_, hm.context_eq.trans hc⟩

namespace State

theorem lt_length_of_outcome {o : Outcome} (ho : s.outcome? f = some o) : f < s.flights.length := by
  obtain ⟨flight, hf, -⟩ := Option.bind_eq_some_iff.mp ho
  exact (List.getElem?_eq_some_iff.mp hf).1

/-- A flight that was not there before an action is opened by a decision. -/
theorem Moves.opened {m : Mode} (hm : Moves t s a s') (hn : s.mode? f = none)
    (hf : s'.mode? f = some m) : ∃ c now context d, a = .decide c now ∧ f = s.flights.length ∧
      d.opens? = some m ∧
      s.holding.Decides s.outcome? s.flights.length context now s'.holding d ∧
      s'.history = s.history ++ [.decided c now d] := by
  have hnew : ∀ flight, s.flights[f]? ≠ some flight := by
    intro flight hi
    simp [mode?, hi] at hn
  obtain ⟨c, now, rfl, rfl⟩ : ∃ c now, a = .decide c now ∧ f = s.flights.length := by
    obtain ⟨flight, hi, -⟩ := mode?_eq_some.mp hf
    cases hm.flightFrom hi with
    | same hb | closed _ _ hb | filled _ _ hb => exact absurd hb (hnew _)
    | opened => exact ⟨_, _, rfl, rfl⟩
  cases hm with
  | walk _ hw | walkRenewal _ hw => cases hw
  | launch _ _ _ hs => cases hs
  | @decide _ call _ holding d hc hp hd =>
    refine ⟨c, now, call.context, d, rfl, rfl, ?_, by rw [follow_holding]; exact hd, ?_⟩
    · simp only [mode?, follow_flights] at hf
      cases ho : d.opens? with
      | none => simp [ho, record] at hf
      | some m' => simpa [ho, record] using hf
    · rw [follow_history, record]

/-- The flight has a pass that is due at the clock reading and still good. -/
def Due (s : State) (now : Instant) (g : FlightId) (pass : Pass) : Prop :=
  s.outcome? g = some (.ready pass) ∧ pass.renewal ≤ now ∧ now < pass.expiry

theorem Due.mono {now : Instant} {g : FlightId} {pass : Pass} (h : s.Due now g pass)
    (he : Extends s s') : s'.Due now g pass := ⟨he.outcome h.1, h.2⟩

structure Coherent (s : State) : Prop where
  paired : (∃ context, s.holding.context = some context) ↔ ∃ g, s.holding.current = some g
  /-- The flight on standby is newer than the current one, whose pass it is to renew. -/
  standby (f : FlightId) : s.holding.standby = some f → ∃ g pass c now,
    s.holding.current = some g ∧ g < f ∧ s.Due now g pass ∧
      .decided c now (.renew f g pass) ∈ s.history
  /-- A renewal gets a new flight, at a clock reading at which the pass of its source is due and good. -/
  renewing (c : CallId) (now : Instant) (f g : FlightId) (pass : Pass) :
    .decided c now (.renew f g pass) ∈ s.history →
      g < f ∧ s.mode? f = some .background ∧ s.Due now g pass
  background (f : FlightId) : s.mode? f = some .background →
    ∃ c now g pass, .decided c now (.renew f g pass) ∈ s.history
  unfailed (f : FlightId) (fault : CredentialFault) : s.mode? f = some .background →
    s.outcome? f ≠ some (.failed fault)
  /-- Flights without an outcome and those who drive them match. -/
  matched : s.Matched
  /-- No renewal is about to write a failure. -/
  closing (r : RenewalId) (renewal : Renewal) (o : Outcome) (ending : Ending) :
    s.renewals[r]? = some renewal → renewal.point = .closing o ending →
      ∀ fault, o ≠ .failed fault

namespace Coherent

theorem start : Coherent {} := by
  refine ⟨by simp, nofun, by simp, fun f hf => ?_, fun f fault hf => ?_, Reachable.start.matched (t := {}),
    by simp⟩ <;> simp [mode?] at hf

theorem step_paired (hs : s.Coherent) (hm : Moves t s a s') :
    (∃ context, s'.holding.context = some context) ↔ ∃ g, s'.holding.current = some g := by
  cases hm.holdingFrom with
  | same hh => rw [hh]; exact hs.paired
  | decided _ _ hd => exact iff_of_true hd.context_eq_some ⟨_, hd.current_eq⟩

theorem step_renewing (hs : s.Coherent) (hm : Moves t s a s') {c : CallId} {now : Instant}
    {g : FlightId} {pass : Pass} (hl : .decided c now (.renew f g pass) ∈ s'.history) :
    g < f ∧ s'.mode? f = some .background ∧ s'.Due now g pass := by
  have he := hm.extends
  cases hm.lineFrom hl with
  | same hl =>
    obtain ⟨hlt, hmode, hdue⟩ := hs.renewing c now f g pass hl
    exact ⟨hlt, mode?_mono hmode he, hdue.mono he⟩
  | decided _ _ hd _ ho =>
    obtain rfl : f = s.flights.length := hd.opens (.inr ⟨g, pass, rfl⟩)
    have hmode : s'.mode? s.flights.length = some .background :=
      mode?_eq_some.mpr ⟨_, ho .background rfl, rfl⟩
    cases hd with
    | renew _ _ _ _ _ hu hdue =>
      obtain ⟨-, hready, hgood⟩ := Holding.usable_eq_some.mp hu
      refine ⟨lt_length_of_outcome hready, hmode, he.outcome hready, ?_, ?_⟩
      · simpa [Pass.dueAt] using hdue
      · exact Pass.expiredAt_eq_false_iff.mp hgood
  | walked _ hw hl => exact (hw.aside _ hl).elim
  | started _ _ _ hstart hl => exact (hstart.aside _ hl).elim
  | walkedRenewal _ hw hl => exact (hw.aside _ hl).elim

theorem step_standby (hs : s.Coherent) (hm : Moves t s a s') (hf : s'.holding.standby = some f) :
    ∃ g pass c now, s'.holding.current = some g ∧ g < f ∧ s'.Due now g pass ∧
      .decided c now (.renew f g pass) ∈ s'.history := by
  have he := hm.extends
  have hold : s.holding.standby = some f → s.holding.current = s'.holding.current →
      ∃ g pass c now, s'.holding.current = some g ∧ g < f ∧ s'.Due now g pass ∧
        .decided c now (.renew f g pass) ∈ s'.history := by
    intro hf hcurrent
    obtain ⟨g, pass, c, now, hg, hlt, hdue, hl⟩ := hs.standby f hf
    exact ⟨g, pass, c, now, hcurrent ▸ hg, hlt, hdue.mono he, he.history.subset hl⟩
  rcases hm.decides_or with ⟨c, now, context, d, hd, hh⟩ | ⟨hh, -⟩
  · have hcurrent := hd.current_eq
    cases hd.advances with
    | kept hc _ hstay =>
      rcases hstay with hstay | hstay <;> rw [hstay] at hf
      · exact hold hf (hc.trans hcurrent.symm)
      · cases hf
    | promoted _ _ hnone | opened _ hnone =>
      rw [hnone] at hf
      cases hf
    | @renewing pass _ hrenew hnext =>
      rw [hnext] at hf
      cases hf
      have hl : .decided c now (.renew s.flights.length d.source pass) ∈ s'.history := by
        simp [hh, ← hrenew]
      obtain ⟨hlt, -, hdue⟩ := hs.step_renewing hm hl
      exact ⟨d.source, pass, c, now, hcurrent, hlt, hdue, hl⟩
  · exact hold (hh ▸ hf) (by rw [hh])

theorem step_background (hs : s.Coherent) (hm : Moves t s a s') (hf : s'.mode? f = some .background) :
    ∃ c now g pass, .decided c now (.renew f g pass) ∈ s'.history := by
  cases hmode : s.mode? f with
  | some m =>
    obtain rfl : m = .background := Option.some.inj ((mode?_mono hmode hm.extends).symm.trans hf)
    obtain ⟨c, now, g, pass, hl⟩ := hs.background f hmode
    exact ⟨c, now, g, pass, hm.extends.history.subset hl⟩
  | none =>
    obtain ⟨c, now, _, d, -, rfl, hopens, hd, hh⟩ := hm.opened hmode hf
    cases d with
    | renew next g pass =>
      obtain rfl : next = s.flights.length := hd.opens (.inr ⟨g, pass, rfl⟩)
      exact ⟨c, now, g, pass, by simp [hh]⟩
    | acquire | wait | serve => cases hopens

theorem step_closing (hs : s.Coherent) (hm : Moves t s a s') {r : RenewalId} {renewal : Renewal}
    {o : Outcome} {ending : Ending} (h : s'.renewals[r]? = some renewal)
    (hp : renewal.point = .closing o ending) (fault : CredentialFault) : o ≠ .failed fault := by
  have hbrings : Renewal.Brings t s' r renewal.previous o ending → o ≠ .failed fault := by
    intro hb
    cases hb <;> exact nofun
  cases hm.renewalFrom h with
  | same hi => exact hs.closing r renewal o ending hi hp fault
  | started _ _ _ hstart =>
    cases hstart with
    | hosted => cases hp
    | alone hk => exact hbrings (hk.brings hp)
  | walked _ hw hh => exact hbrings (hw.brings hh hp)
  | closed => cases hp
  | counted => cases hp

theorem step_unfailed (hs : s.Coherent) (hm : Moves t s a s') {fault : CredentialFault}
    (hf : s'.mode? f = some .background) : s'.outcome? f ≠ some (.failed fault) := by
  intro ho
  obtain ⟨flight, hi, hmode⟩ := mode?_eq_some.mp hf
  have houtcome : flight.outcome = some (.failed fault) := by simpa [outcome?, hi] using ho
  have hold : ∀ before : Flight, s.flights[f]? = some before → before.mode = .background →
      before.outcome ≠ some (.failed fault) := by
    intro before hb hmode hfailed
    exact hs.unfailed f fault (mode?_eq_some.mpr ⟨before, hb, hmode⟩) (by simp [outcome?, hb, hfailed])
  cases hm.flightFrom hi with
  | same hi => exact hold flight hi hmode houtcome
  | opened => cases houtcome
  | closed hc hp hb =>
    -- a call writes only to a flight of its own
    cases (hs.matched.closing hc hp hb).1.symm.trans hmode
  | filled hr hp hb =>
    rcases Flight.outcome_write houtcome with hfailed | rfl
    · exact hold _ hb hmode hfailed
    · exact hs.closing _ _ _ _ hr hp fault rfl

theorem step (hs : s.Coherent) (hm : Moves t s a s') : s'.Coherent where
  paired := hs.step_paired hm
  standby _ hf := hs.step_standby hm hf
  renewing _ _ _ _ _ hl := hs.step_renewing hm hl
  background _ hf := hs.step_background hm hf
  unfailed _ _ hf := hs.step_unfailed hm hf
  matched := hm.shifts.matched hs.matched
  closing _ _ _ _ h hp := hs.step_closing hm h hp

end Coherent

/-- A flight for a renewal is opened by a decision and put on standby, beside a current flight whose pass is due
and good at the clock reading of this decision. -/
theorem Coherent.opens_background (hs : s.Coherent) (hm : Moves t s a s') (hn : s.mode? f = none)
    (hf : s'.mode? f = some .background) : ∃ c now g pass, a = .decide c now ∧
      s'.holding.standby = some f ∧ s'.holding.current = some g ∧ s'.Due now g pass := by
  obtain ⟨c, now, _, d, rfl, rfl, hopens, hd, hh⟩ := hm.opened hn hf
  cases hd.advances with
  | kept _ hnone | promoted _ hnone => cases hnone.symm.trans hopens
  | opened hacquire =>
    rw [hacquire] at hopens
    cases hopens
  | @renewing pass _ hrenew hnext =>
    have hl : .decided c now (.renew s.flights.length d.source pass) ∈ s'.history := by
      simp [hh, ← hrenew]
    exact ⟨c, now, d.source, pass, rfl, hnext, hd.current_eq, (hs.step_renewing hm hl).2.2⟩

/-- A call for any context may decide at any clock reading. -/
theorem run?_newcomer (t : Timing) (s : State) (context : Context) (now : Instant) :
    ∃ s', s.run? t [.call context .async false true, .decide s.calls.length now] = some s' := by
  have hc : (s.call context .async false true).calls[s.calls.length]? =
      some { context, style := .async, inside := false, hasRuntime := true } := by
    simp [State.call, Style.refusal?]
  have hd := step_decideCall (t := t) hc rfl (by simp) now
  have hcall : s.step t (.call context .async false true) = some (s.call context .async false true) := rfl
  exact ⟨_, by rw [run?_cons, hcall, Option.bind_some, run?_cons, hd]; rfl⟩

theorem Coherent.run (hs : s.Coherent) {actions : List Action} (h : s.run? t actions = some s') :
    s'.Coherent :=
  run_induction h hs fun _ _ _ _ hstep hx => hx.step (step_moves hstep)

end State

/-- An empty cache is coherent, and whatever any call decides for any context at any clock reading, and
whatever outcomes are written in any order, it stays so.  A flight for a renewal is opened in no other way
than on standby, beside a current flight whose pass is due and good at the clock reading of the decision. -/
theorem State.coherent_throughout : State.Coherent {} ∧
    (∀ (t : Timing) (s s' : State) (actions : List Action), s.Coherent →
      s.run? t actions = some s' → s'.Coherent) ∧
    (∀ (t : Timing) (s : State) (context : Context) (now : Instant), s.Coherent →
      ∃ s', s.run? t [.call context .async false true, .decide s.calls.length now] = some s' ∧
        s'.Coherent) ∧
    ∀ (t : Timing) (s s' : State) (a : Action) (f : FlightId), s.Coherent → s.step t a = some s' →
      s.mode? f = none → s'.mode? f = some .background → ∃ c now g pass, a = .decide c now ∧
        s'.holding.standby = some f ∧ s'.holding.current = some g ∧ s'.Due now g pass := by
  refine ⟨.start, fun t s s' actions hs h => hs.run h, fun t s context now hs => ?_,
    fun t s s' a f hs h hn hf => hs.opens_background (step_moves h) hn hf⟩
  obtain ⟨s', h⟩ := run?_newcomer t s context now
  exact ⟨s', h, hs.run h⟩

theorem coherent_throughout_overdueRow : ∃ s s', State.run? {} {} overdueRow = some s ∧ s.Coherent ∧
    s.step {} (.decide 1 ⟨400000000000⟩) = some s' ∧ ∃ c now g pass,
      .decide 1 ⟨400000000000⟩ = Action.decide c now ∧ s'.holding.standby = some 1 ∧
        s'.holding.current = some g ∧ s'.Due now g pass := by
  obtain ⟨s, s', h, hstep, hn, hf⟩ : ∃ s s', State.run? {} {} overdueRow = some s ∧
      s.step {} (.decide 1 ⟨400000000000⟩) = some s' ∧ s.mode? 1 = none ∧
        s'.mode? 1 = some .background := ⟨_, _, rfl, rfl, rfl, rfl⟩
  obtain ⟨hstart, hrun, -, hopens⟩ := State.coherent_throughout
  have hs : s.Coherent := hrun _ _ _ _ hstart h
  exact ⟨s, s', h, hs, hstep, hopens _ _ _ _ _ hs hstep hn hf⟩

end BearerTokens.Cache
