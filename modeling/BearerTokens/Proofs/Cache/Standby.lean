import BearerTokens.Proofs.Cache.Renewals

/-! # A renewal on standby

While a pass is served the flight on standby is that of a renewal of this very pass.  A call that is
served a pass due for renewal finds the renewal under way, with one exception: a renewal that
succeeded with a pass that has expired by then stays on standby, and as long as the old pass is good
no call starts another.
-/

namespace BearerTokens.Cache

variable {t : Timing} {s s' : State} {f g : FlightId} {pass : Pass}

namespace State

/-- Whoever renews by way of this flight replaces the given pass of the given source. -/
structure Renews (s : State) (f g : FlightId) (pass : Pass) : Prop where
  launching (c : CallId) (call : Call) (source : FlightId) (p : Pass) : s.calls[c]? = some call →
    call.point = .launching f source p → source = g ∧ p = pass
  renewal (r : RenewalId) (renewal : Renewal) : s.renewals[r]? = some renewal →
    renewal.flight = f → renewal.source = g ∧ renewal.previous = pass

/-- A call begins to launch only for a new flight. -/
theorem Moves.launching_old {a : Action} (hm : Moves t s a s') (hf : f < s.flights.length)
    {c : CallId} {call : Call} {source : FlightId} (hc : s'.calls[c]? = some call)
    (hp : call.point = .launching f source pass) :
    ∃ before, s.calls[c]? = some before ∧ before.point = .launching f source pass := by
  cases hm.callFrom hc with
  | same hi => exact ⟨call, hi, hp⟩
  | added hq => rcases hq with rfl | ⟨fault, rfl⟩ <;> cases hp
  | @flagged _ before hi => exact ⟨before, hi, hp⟩
  | @decided _ _ _ d _ _ hd =>
    cases d with
    | renew next source' pass' =>
      have hn : next = s.flights.length := hd.opens (.inr ⟨_, _, rfl⟩)
      cases hp
      exact absurd hf (hn ▸ Nat.lt_irrefl _)
    | _ => cases hp
  | walked _ hw => cases hw <;> cases hp
  | closed => cases hp
  | launched _ _ _ hs => cases hs <;> cases hp

theorem Renews.step {a : Action} (h : s.Renews f g pass) (hm : Moves t s a s')
    (hf : f < s.flights.length) : s'.Renews f g pass := by
  refine ⟨fun c call source p hc hp => ?_, fun r renewal hr hflight => ?_⟩
  · obtain ⟨before, hb, hq⟩ := hm.launching_old hf hc hp
    exact h.launching c before source p hb hq
  · rcases hm.renewal_before_or hr with ⟨q, hb⟩ | ⟨_, _, _, -, hc, hp, -⟩
    · exact h.renewal r { renewal with point := q } hb hflight
    · exact h.launching _ _ _ _ hc (hflight ▸ hp)

end State

def Holding.Linked (s : State) (h : Holding) : Prop :=
  ∀ f, h.standby = some f →
    ∃ g pass, h.current = some g ∧ s.outcome? g = some (.ready pass) ∧ s.Renews f g pass

theorem Holding.Linked.step {a : Action} {h : Holding} (hl : h.Linked s) (hs : h.Sound s)
    (hm : State.Moves t s a s') : h.Linked s' := by
  intro f hf
  obtain ⟨g, pass, hg, ho, hrenews⟩ := hl f hf
  obtain ⟨_, _, _, _, hk, -⟩ := hs.standby f hf
  exact ⟨g, pass, hg, hm.extends.outcome ho, hrenews.step hm hk.lt_length⟩

/-- The call that opens a flight on standby is the first to renew by way of it. -/
theorem Reachable.renews_opened (hr : Reachable t s) {a : Action} (hm : State.Moves t s a s')
    {c : CallId} {call : Call}
    (hc : s'.calls[c]? = some { call with point := .launching s.flights.length g pass })
    (ha : ∃ now, a = .decide c now) : s'.Renews s.flights.length g pass := by
  obtain ⟨now, rfl⟩ := ha
  refine ⟨fun i x source p hi hp => ?_, fun r renewal h hflight => ?_⟩
  · have hold : ∀ before : Call, s.calls[i]? = some before →
        before.point = .launching s.flights.length source p → False := by
      intro before hb hq
      have hplaced := hr.placed hb
      rw [hq] at hplaced
      exact Nat.lt_irrefl _ (State.Seeks.lt_length hplaced)
    cases hm.callFrom hi with
    | same hi => exact (hold x hi hp).elim
    | decided =>
      have hsame := congrArg Call.point (Option.some.inj (hc.symm.trans hi))
      cases hsame.trans hp
      exact ⟨rfl, rfl⟩
    | walked _ hw => cases hw
    | launched _ _ _ hs => cases hs
  · have hi : s.renewals[r]? = some renewal := by
      cases hm.renewalFrom h with
      | same hi => exact hi
      | started _ _ _ hs => cases hs
      | walked _ hw => cases hw
    exact absurd (hr.renewal_seeks hi).lt_length (hflight ▸ Nat.lt_irrefl _)

/-- In a reachable state the flight on standby renews the pass of the current one. -/
theorem Reachable.linked (hr : Reachable t s) : s.holding.Linked s := by
  refine hr.induct (P := fun x => x.holding.Linked x) nofun fun a x y hx hm ih => ?_
  have hstay : x.holding.Linked y := ih.step hx.sound hm
  cases hm.holdingFrom with
  | same hh => rw [hh]; exact hstay
  | @decided c call now d hc hp hd ho hl =>
    generalize hh : y.holding = h' at hd ⊢
    cases hd with
    | anew | lapsed => exact nofun
    | wait => exact hstay
    | @renew _ _ source _ pass m _ _ _ _ _ hu =>
      obtain ⟨hcur, hready, -⟩ := Holding.usable_eq_some.mp hu
      rintro _ ⟨⟩
      exact ⟨source, pass, hcur, hm.extends.outcome hready, hx.renews_opened hm hl ⟨now, rfl⟩⟩
    | serve _ _ _ _ hpromotes =>
      cases hpromotes with
      | kept => exact hstay
      | promoted | forgotten => exact nofun

/-! ## Served while due -/

/-- The renewal on standby has brought a pass that has expired. -/
def State.Spent (s : State) (now : Instant) : Prop :=
  ∃ f late, s.holding.standby = some f ∧ s.outcome? f = some (.ready late) ∧
    late.expiredAt now = true

/-- A pass on standby that expires before the one it was to replace came from a renewal that
succeeded: a copy expires with its original. -/
theorem Reachable.fresh_of_earlier (hr : Reachable t s) (hf : s.holding.standby = some f)
    (hg : s.holding.current = some g) (ho : s.outcome? g = some (.ready pass)) {late : Pass}
    (hlate : s.outcome? f = some (.ready late)) (hlt : late.expiry ≠ pass.expiry) :
    ∃ r renewal token, s.renewals[r]? = some renewal ∧ renewal.flight = f ∧
      renewal.previous = pass ∧ Happening.answered (.renewal r) (.ok token) ∈ s.history ∧
        Pass.ofToken? token t.lead = some late := by
  obtain ⟨_, _, _, _, _, hmode, -⟩ := hr.sound.standby f hf
  obtain ⟨r, renewal, ending, h, hflight, hbrings⟩ := hr.background_brings hmode hlate
  obtain ⟨g', pass', hg', ho', hrenews⟩ := hr.linked f hf
  cases hg.symm.trans hg'
  cases ho.symm.trans ho'
  obtain ⟨-, hprev⟩ := hrenews.renewal r renewal h hflight
  cases hbrings with
  | fresh ht hl => exact ⟨r, renewal, _, h, hflight, hprev, hl, ht⟩
  | copy _ hexp => exact absurd (hprev ▸ hexp) hlt

section Served

variable {outcome? : FlightId → Option Outcome} {next : FlightId} {context : Context}
  {now : Instant} {h h' : Holding}

theorem Holding.Decides.served
    (hd : h.Decides outcome? next context now h' (.serve g pass)) :
    h'.usable outcome? now = some (g, pass) ∧ (pass.dueAt now = true → h'.standby ≠ none) := by
  cases hd with
  | serve _ _ _ _ _ hu hdue => exact ⟨hu, hdue⟩

/-- A call that is served beside a renewal leaves the holding as it was. -/
theorem Holding.Decides.served_kept
    (hd : h.Decides outcome? next context now h' (.serve g pass)) (hs : h'.standby ≠ none) :
    h' = h ∧ ∀ f o, h.standby = some f → outcome? f = some o →
      o ≠ .cancelled ∧ ∀ late, o = .ready late → late.expiredAt now = true := by
  cases hd with
  | serve _ _ _ _ hm =>
    cases hm with
    | kept hk => exact ⟨rfl, hk⟩
    | promoted | forgotten => exact absurd rfl hs

end Served

/-- A call that is served a pass due for renewal finds the renewal under way exactly when no spent
one is on standby; and a spent one succeeded, with a pass that expires before the one served. -/
theorem Reachable.serve_due_iff (hr : Reachable t s) {context : Context} {now : Instant}
    {h' : Holding} {source : FlightId}
    (hd : s.holding.decide s.outcome? s.flights.length context now = (h', .serve source pass))
    (hdue : pass.dueAt now = true) :
    ((∃ f, h'.standby = some f ∧ s.outcome? f = none) ↔ ¬ s.Spent now) ∧
      ∀ f late, s.holding.standby = some f → s.outcome? f = some (.ready late) →
        late.expiredAt now = true → late.expiry < pass.expiry ∧
          ∃ r renewal token, s.renewals[r]? = some renewal ∧ renewal.flight = f ∧
            renewal.previous = pass ∧ Happening.answered (.renewal r) (.ok token) ∈ s.history ∧
              Pass.ofToken? token t.lead = some late := by
  have hdec := Holding.decide_decides hd
  obtain ⟨hu, hstandby⟩ := hdec.served
  obtain ⟨rfl, hkept⟩ := hdec.served_kept (hstandby hdue)
  obtain ⟨hcur, hready, hgood⟩ := Holding.usable_eq_some.mp hu
  refine ⟨⟨?_, ?_⟩, ?_⟩
  · rintro ⟨f, hf, hopen⟩ ⟨f', late, hf', hlate, -⟩
    cases hf.symm.trans hf'
    rw [hopen] at hlate
    cases hlate
  · intro hspent
    obtain ⟨f, hf⟩ := Option.ne_none_iff_exists'.mp (hstandby hdue)
    refine ⟨f, hf, ?_⟩
    cases ho : s.outcome? f with
    | none => rfl
    | some o =>
      obtain ⟨hn, hexp⟩ := hkept f o hf ho
      obtain ⟨_, _, _, _, _, hmode, -⟩ := hr.sound.standby f hf
      obtain ⟨r, renewal, ending, -, -, hbrings⟩ := hr.background_brings hmode ho
      cases hbrings with
      | fresh => exact absurd ⟨f, _, hf, ho, hexp _ rfl⟩ hspent
      | copy => exact absurd ⟨f, _, hf, ho, hexp _ rfl⟩ hspent
      | nothing => exact absurd rfl hn
  · intro f late hf hlate hexp
    have hle : late.expiry ≤ now := Pass.expiredAt_iff.mp hexp
    have hgood' : now < pass.expiry := Pass.expiredAt_eq_false_iff.mp hgood
    have hlt : late.expiry < pass.expiry := Int.lt_of_le_of_lt hle hgood'
    refine ⟨hlt, hr.fresh_of_earlier hf hcur hready hlate ?_⟩
    intro heq
    rw [heq] at hlt
    exact Int.lt_irrefl _ hlt

/-- A renewal succeeds with a pass for a minute beside one that is good for four minutes more. -/
def spentRow : List Action :=
  [.call {} .async false true, .decide 0 ⟨0⟩, .enter 0, .ask 0,
    .answer 0 (.ok (.ofText "T1" ⟨600000000000⟩)), .close 0,
    .call {} .async false true, .decide 1 ⟨360000000000⟩, .launch 1,
    .begin 0, .askRenewal 0,
    .answerRenewal 0 (.ok (.ofText "T2" ⟨420000000000⟩)) ⟨360000000000⟩, .closeRenewal 0,
    .countRenewal 0]

/-- Two minutes later a call is served the old pass, which is due, and nothing renews it. -/
theorem spentRow_serves : ∃ s h' source pass, State.run? {} {} spentRow = some s ∧
    s.holding.decide s.outcome? s.flights.length {} ⟨480000000000⟩ = (h', .serve source pass) ∧
      pass.dueAt ⟨480000000000⟩ = true ∧ ∀ f, h'.standby = some f → s.outcome? f ≠ none := by
  refine ⟨_, _, _, _, rfl, rfl, rfl, ?_⟩
  rintro _ ⟨⟩
  exact nofun

theorem serve_due_iff_spentRow : ∃ (s : State) (h' : Holding) (source : FlightId) (pass : Pass),
    State.run? {} {} spentRow = some s ∧
      s.holding.decide s.outcome? s.flights.length {} ⟨480000000000⟩ = (h', .serve source pass) ∧
      ((∃ f, h'.standby = some f ∧ s.outcome? f = none) ↔ ¬ s.Spent ⟨480000000000⟩) := by
  obtain ⟨s, h', source, pass, hrun, hd, hdue, -⟩ := spentRow_serves
  exact ⟨s, h', source, pass, hrun, hd, (Reachable.serve_due_iff ⟨_, hrun⟩ hd hdue).1⟩

/-- A served pass that is due is not always under renewal. -/
theorem not_always_renewing : ¬ ∀ (s : State) (context : Context) (now : Instant) (h' : Holding)
    (source : FlightId) (pass : Pass), Reachable {} s →
    s.holding.decide s.outcome? s.flights.length context now = (h', .serve source pass) →
    pass.dueAt now = true → ∃ f, h'.standby = some f ∧ s.outcome? f = none := by
  intro hall
  obtain ⟨s, h', source, pass, hrun, hd, hdue, hs⟩ := spentRow_serves
  obtain ⟨f, hf, ho⟩ := hall s {} _ h' source pass ⟨_, hrun⟩ hd hdue
  exact hs f hf ho

end BearerTokens.Cache
