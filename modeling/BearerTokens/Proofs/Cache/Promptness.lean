import BearerTokens.Proofs.Cache.Course
import BearerTokens.Proofs.Cache.Lifetime

/-! # When a call has to wait

A call acquires or waits only when the cache has nothing for it: no context that it could share, or no
good pass in the current flight nor on standby.  Otherwise it is served, from the renewal on standby
if that has a good pass, and it returns by itself and without a request.  One thing can still go
wrong: where the call has to settle a renewal itself, the instant of the next one may leave the
calendar.
-/

namespace BearerTokens.Cache

variable {t : Timing} {s s' : State} {f source : FlightId} {pass : Pass} {context : Context}
  {now : Instant}

namespace State

def Offers (s : State) (now : Instant) (f : FlightId) (pass : Pass) : Prop :=
  s.outcome? f = some (.ready pass) ∧ now < pass.expiry

/-- The cache has nothing to serve to a call for the context. -/
def Bare (s : State) (context : Context) (now : Instant) : Prop :=
  (∀ stored, s.holding.context = some stored → ¬ stored.Equivalent context) ∨
    ∀ f pass, s.holding.current = some f ∨ s.holding.standby = some f → ¬ s.Offers now f pass

/-- What the cache serves: the good pass on standby, or else the one of the current flight. -/
def Prefers (s : State) (now : Instant) (f : FlightId) (pass : Pass) : Prop :=
  s.Offers now f pass ∧ (s.holding.standby = some f ∨
    s.holding.current = some f ∧ ∀ g late, s.holding.standby = some g → ¬ s.Offers now g late)

theorem Prefers.not_bare {stored : Context} (hp : s.Prefers now f pass)
    (hc : s.holding.context = some stored) (he : stored.Equivalent context) :
    ¬ s.Bare context now := by
  rintro (hnone | hnone)
  · exact hnone stored hc he
  · obtain ⟨hoffers, hheld⟩ := hp
    exact hnone f pass (hheld.symm.imp_left And.left) hoffers

end State

/-! ## Decisions -/

def Decision.Blocks (d : Decision) : Prop := ∃ f, d = .acquire f ∨ d = .wait f

namespace Holding

variable {m h' : Holding} {d : Decision}

theorem Promotes.promotes (hm : s.holding.Promotes s.outcome? now m)
    (hf : s.holding.standby = some f) (hoffers : s.Offers now f pass) : m.current = some f := by
  obtain ⟨ho, hgood⟩ := hoffers
  cases hm with
  | kept hk =>
    have hexpired : pass.expiredAt now = true := (hk f _ hf ho).2 pass rfl
    rw [Pass.expiredAt_eq_false_iff.mpr hgood] at hexpired
    cases hexpired
  | promoted hs => exact hs.symm.trans hf
  | forgotten hs hcancelled =>
    cases hf.symm.trans hs
    cases ho.symm.trans hcancelled

/-- If nothing can be used after the promotion, nothing could be used before. -/
theorem Promotes.bare (hm : s.holding.Promotes s.outcome? now m)
    (hu : m.usable s.outcome? now = none)
    (hf : s.holding.current = some f ∨ s.holding.standby = some f) : ¬ s.Offers now f pass := by
  intro hoffers
  have hunused : ∀ {g q}, m.current = some g → ¬ s.Offers now g q := by
    rintro g q hg ⟨ho, hgood⟩
    rw [usable_eq_some.mpr ⟨hg, ho, Pass.expiredAt_eq_false_iff.mpr hgood⟩] at hu
    cases hu
  rcases hf with hf | hf
  · cases hm with
    | kept | forgotten => exact hunused hf hoffers
    | promoted _ ho he => exact hunused rfl ⟨ho, Pass.expiredAt_eq_false_iff.mp he⟩
  · exact hunused (hm.promotes hf hoffers) hoffers

/-- What is used after the promotion is what the cache prefers. -/
theorem Promotes.prefers (hm : s.holding.Promotes s.outcome? now m)
    (hu : m.usable s.outcome? now = some (source, pass)) : s.Prefers now source pass := by
  obtain ⟨hcur, hready, hgood⟩ := usable_eq_some.mp hu
  refine ⟨⟨hready, Pass.expiredAt_eq_false_iff.mp hgood⟩, ?_⟩
  by_cases hstandby : s.holding.standby = some source
  · exact .inl hstandby
  · rcases hm.current_from hcur with ⟨hcurrent, -⟩ | ⟨hstandby', -⟩
    · refine .inr ⟨hcurrent, fun g late hg hoffers => ?_⟩
      cases hcur.symm.trans (hm.promotes hg hoffers)
      exact hstandby hg
    · exact absurd hstandby' hstandby

/-- A decision that blocks finds nothing, and any other serves what the cache prefers. -/
theorem Decides.bare_or (hd : s.holding.Decides s.outcome? s.flights.length context now h' d)
    (hs : s.holding.Sound s) : d.Blocks ∧ s.Bare context now ∨
      ¬ d.Blocks ∧ ∃ source pass, (d = .serve source pass ∨ ∃ f, d = .renew f source pass) ∧
        s.Prefers now source pass ∧ ¬ s.Bare context now := by
  cases hd with
  | anew hn =>
    refine .inl ⟨⟨_, .inl rfl⟩, .inl fun stored hstored => ?_⟩
    obtain ⟨⟨f, hf⟩, -⟩ := hs.stored stored hstored
    exact hn stored f hstored hf
  | @wait _ f _ _ hf hopen =>
    refine .inl ⟨⟨f, .inr rfl⟩, .inr fun g pass hg ⟨ho, _⟩ => ?_⟩
    rcases hg with hg | hg
    · cases hf.symm.trans hg
      cases hopen.symm.trans ho
    · -- beside a renewal on standby the current flight has a pass
      obtain ⟨_, g', pass', -, -, -, hg', ho'⟩ := hs.standby g hg
      cases hf.symm.trans hg'
      cases hopen.symm.trans ho'
  | lapsed _ _ _ _ hm hu => exact .inl ⟨⟨_, .inl rfl⟩, .inr fun g pass hg => hm.bare hu hg⟩
  | renew hc he _ _ hm hu =>
    refine .inr ⟨?_, _, _, .inr ⟨_, rfl⟩, hm.prefers hu, (hm.prefers hu).not_bare hc he⟩
    rintro ⟨f, hf | hf⟩ <;> cases hf
  | serve hc he _ _ hm hu =>
    refine .inr ⟨?_, _, _, .inl rfl, hm.prefers hu, (hm.prefers hu).not_bare hc he⟩
    rintro ⟨f, hf | hf⟩ <;> cases hf

theorem Decides.not_bare (hd : s.holding.Decides s.outcome? s.flights.length context now h' d)
    (hs : s.holding.Sound s) (hb : ¬ d.Blocks) : ¬ s.Bare context now := by
  rcases hd.bare_or hs with ⟨hb', -⟩ | ⟨-, _, _, _, _, hbare⟩
  · exact absurd hb' hb
  · exact hbare

end Holding

/-! ## Calls that are served -/

/-- A call makes a request only after it has decided to acquire. -/
theorem Reachable.asked_acquired (hr : Reachable t s) {c : CallId} {asker : Context}
    (hl : .asked (.call c) asker ∈ s.history) :
    ∃ now f, .decided c now (.acquire f) ∈ s.history := by
  refine hr.induct (P := fun x => .asked (.call c) asker ∈ x.history →
    ∃ now f, .decided c now (.acquire f) ∈ x.history) (by simp) (fun a x y hx hm ih => ?_) hl
  intro hl
  have hsub := hm.extends.history.subset
  rcases hm.asked hl with hl | ⟨rfl, call, f, hc, hp⟩
  · obtain ⟨now, f, hd⟩ := ih hl
    exact ⟨now, f, hsub hd⟩
  · have hold : ∀ before : Call, x.calls[c]? = some before →
        before.point.drives? = some (.synchronous, f) →
        ∃ now f, .decided c now (.acquire f) ∈ y.history := by
      intro before hb hq
      obtain ⟨now, hd⟩ := hx.driving_decided hb hq
      exact ⟨now, f, hsub hd⟩
    cases hm.callFrom hc with
    | same hi => exact hold call hi (by rw [hp]; rfl)
    | walked hi hw =>
      cases hw with
      | ask hq =>
        cases hp
        exact hold _ hi (by rw [hq]; rfl)
    | launched _ _ _ hs => cases hs

/-- A call that has been served makes no request, whatever happens. -/
theorem Reachable.served_unasked (hr : Reachable t s) {c : CallId} {d : Decision}
    (hl : .decided c now d ∈ s.history) (hd : ¬ d.Blocks) (asker : Context) :
    .asked (.call c) asker ∉ s.history := by
  intro hasked
  obtain ⟨now', f, hl'⟩ := hr.asked_acquired hasked
  obtain ⟨-, rfl⟩ := hr.decided_unique hl (fun g hg => hd ⟨g, .inr hg⟩) hl' nofun
  exact hd ⟨f, .inl rfl⟩

namespace State

structure Delivers (t : Timing) (actions : List Action) (s : State) (c : CallId) (header : String) :
    Prop where
  unasked (asker : Context) : .asked (.call c) asker ∉ s.history
  /-- The call has returned the header or is about to, provided that where it settles a renewal
  itself the instant of the next one is in the calendar. -/
  serves : (∀ later, .settle c later ∈ actions → (later.after? t.retry).isSome) →
    s.Serves c header ∧ ∀ (call : Call) (later : Instant), s.calls[c]? = some call →
      call.hosted = true ∨ (later.after? t.retry).isSome →
        ∃ r, s.Returns t c r call.hosted later header

/-- What a call for the context comes to that decides at the clock reading. -/
structure Prompt (t : Timing) (s : State) (context : Context) (now : Instant) : Prop where
  blocks (h' : Holding) (d : Decision) :
    s.holding.decide s.outcome? s.flights.length context now = (h', d) →
      (d.Blocks ↔ s.Bare context now)
  prefers (h' : Holding) (d : Decision) :
    s.holding.decide s.outcome? s.flights.length context now = (h', d) → ¬ d.Blocks →
      ∃ source pass, (d = .serve source pass ∨ ∃ f, d = .renew f source pass) ∧
        s.Prefers now source pass
  delivers (c : CallId) (call : Call) (x s' : State) (actions : List Action) :
    s.calls[c]? = some call → call.context = context → s.step t (.decide c now) = some x →
      x.run? t actions = some s' → ¬ s.Bare context now →
        ∃ source pass, s.Prefers now source pass ∧ s'.Delivers t actions c pass.header

end State

theorem Reachable.decided_serves (hr : Reachable t s) {c : CallId}
    (hm : State.Moves t s (.decide c now) s') {call : Call} {d : Decision}
    (hc : s'.calls[c]? = some { call with point := d.leads })
    (hd : d = .serve source pass ∨ ∃ f, d = .renew f source pass) : s'.Serves c pass.header := by
  refine ⟨⟨_, hc, ?_⟩, hr.decided_unasked hm⟩
  rcases hd with rfl | ⟨f, rfl⟩ <;> rfl

theorem State.Serves.run {c : CallId} {header : String} (hs : s.Serves c header)
    {actions : List Action} (h : s.run? t actions = some s')
    (hretry : ∀ later, .settle c later ∈ actions → (later.after? t.retry).isSome) :
    s'.Serves c header :=
  State.run_induction (P := fun x => x.Serves c header) h hs fun _ _ _ ha hstep hx =>
    hx.step (State.step_moves hstep) fun later he => hretry later (he ▸ ha)

/-- A call has to wait exactly when the cache has nothing for it.  Otherwise it returns what the cache
prefers, by itself and without a request. -/
theorem Reachable.prompt (hr : Reachable t s) (context : Context) (now : Instant) :
    s.Prompt t context now where
  blocks h' d hd := by
    rcases (Holding.decide_decides hd).bare_or hr.sound with ⟨hb, hbare⟩ | ⟨hb, _, _, _, _, hbare⟩
    · exact iff_of_true hb hbare
    · exact iff_of_false hb hbare
  prefers h' d hd hb := by
    rcases (Holding.decide_decides hd).bare_or hr.sound with ⟨hb', -⟩ | ⟨-, source, pass, hs, hp, -⟩
    · exact absurd hb' hb
    · exact ⟨source, pass, hs, hp⟩
  delivers c call x s' actions hc hcontext hstep hrun hbare := by
    have hm := State.step_moves hstep
    obtain ⟨before, d, hb, -, hd, hled, hh⟩ := hm.decided
    cases hc.symm.trans hb
    subst hcontext
    rcases hd.bare_or hr.sound with ⟨-, hbare'⟩ | ⟨hblocks, source, pass, hserved, hprefers, -⟩
    · exact absurd hbare' hbare
    · have hr' := (hr.step hstep).run hrun
      have hl : .decided c now d ∈ s'.history :=
        (State.run_extends hrun).history.subset (by simp [hh])
      refine ⟨source, pass, hprefers, hr'.served_unasked hl hblocks, fun hretry => ?_⟩
      have hserves := (hr.decided_serves hm hled hserved).run hrun hretry
      exact ⟨hserves, fun call later hc' hlater => hserves.returns hr' hc' hlater⟩

/-- A pass that is due is served without a wait. -/
theorem prompt_heldRow : ∃ s, State.run? {} {} (heldRow false) = some s ∧
    ¬ s.Bare {} ⟨400000000000⟩ ∧ s.Prompt {} {} ⟨400000000000⟩ := by
  obtain ⟨s, h', source, pass, h, hd⟩ : ∃ s h' source pass, State.run? {} {} (heldRow false) = some s ∧
      s.holding.decide s.outcome? s.flights.length {} ⟨400000000000⟩ = (h', .renew 1 source pass) :=
    ⟨_, _, _, _, rfl, rfl⟩
  have hr : Reachable {} s := ⟨_, h⟩
  exact ⟨s, h, (Holding.decide_decides hd).not_bare hr.sound (by simp [Decision.Blocks]),
    Reachable.prompt hr {} ⟨400000000000⟩⟩

def boundless : Timing := { retry := ⟨9223372036854775807000000⟩ }

/-- A call begins beside a pass that is due, without a runtime. -/
def overdueRow : List Action := heldRow false ++ [.call {} .async false false]

def overflowRow : List Action :=
  [.settle 1 ⟨400000000000⟩, .closeRenewal 0, .countRenewal 0, .finish 1]

/-- A call that is served does not always return. -/
theorem not_always_returning : ¬ ∀ (t : Timing) (s x s' : State) (c : CallId) (call after : Call)
    (now : Instant) (actions : List Action) (exit : Exit), Reachable t s →
    s.calls[c]? = some call → s.step t (.decide c now) = some x → ¬ s.Bare call.context now →
    x.run? t actions = some s' → s'.calls[c]? = some after → after.point = .done exit →
    ∃ header, exit = .returned (.ok header) := by
  intro hall
  obtain ⟨s, x, s', call, after, h', source, pass, h, hc, hstep, hd, hrun, hafter, hp⟩ :
      ∃ s x s' call after h' source pass, State.run? boundless {} overdueRow = some s ∧
        s.calls[1]? = some call ∧ s.step boundless (.decide 1 ⟨400000000000⟩) = some x ∧
          s.holding.decide s.outcome? s.flights.length call.context ⟨400000000000⟩ =
            (h', .renew 1 source pass) ∧
          x.run? boundless overflowRow = some s' ∧ s'.calls[1]? = some after ∧
            after.point = .done .crashed :=
    ⟨_, _, _, _, _, _, _, _, rfl, rfl, rfl, rfl, rfl, rfl, rfl⟩
  have hr : Reachable boundless s := ⟨_, h⟩
  have hbare := (Holding.decide_decides hd).not_bare hr.sound (by simp [Decision.Blocks])
  obtain ⟨header, hheader⟩ :=
    hall boundless s x s' 1 call after _ overflowRow _ hr hc hstep hbare hrun hafter hp
  cases hheader

end BearerTokens.Cache
