import BearerTokens.Proofs.Cache.Lineage
import BearerTokens.Proofs.Cache.Standby

/-! # No call goes back to an older cycle

Flights are numbered in the order in which they are opened, and a cycle is a flight that the credential
answered.  The current flight only moves forward, from one decision to the next.  A renewal may put an
old pass into a newer flight, but nobody decides on a flight between that one and its source.  So calls
that decide one after the other get headers of cycles in the same order.
-/

namespace BearerTokens.Cache

variable {t : Timing} {s s' : State} {f g : FlightId}

/-! ## The current flight -/

inductive Holding.Advances (next : FlightId) (h h' : Holding) (d : Decision) : Prop where
  | kept (hc : h.current = some d.source) (hd : d.opens? = none)
      (hs : h'.standby = h.standby ∨ h'.standby = none)
  | promoted (hc : h.standby = some d.source) (hd : d.opens? = none) (hs : h'.standby = none)
  | opened (hd : d = .acquire next) (hs : h'.standby = none)
  | renewing {pass : Pass} (hc : h.current = some d.source ∨ h.standby = some d.source)
      (hd : d = .renew next d.source pass) (hs : h'.standby = some next)

section Decides

variable {outcome? : FlightId → Option Outcome} {next : FlightId} {context : Context}
  {now : Instant} {h h' : Holding} {d : Decision}

theorem Holding.Decides.current_eq (hd : h.Decides outcome? next context now h' d) :
    h'.current = some d.source := by
  cases hd with
  | anew | lapsed => rfl
  | wait _ _ hf => exact hf
  | renew _ _ _ _ _ hu | serve _ _ _ _ _ hu => exact (usable_eq_some.mp hu).1

theorem Holding.Decides.advances (hd : h.Decides outcome? next context now h' d) :
    h.Advances next h' d := by
  cases hd with
  | anew | lapsed => exact .opened rfl rfl
  | wait _ _ hf => exact .kept hf rfl (.inl rfl)
  | renew _ _ _ _ hm hu =>
    rcases hm.current_from (usable_eq_some.mp hu).1 with ⟨hc, -⟩ | ⟨hc, -⟩
    · exact .renewing (.inl hc) rfl rfl
    · exact .renewing (.inr hc) rfl rfl
  | serve _ _ _ _ hm hu =>
    rcases hm.current_from (usable_eq_some.mp hu).1 with ⟨hc, hs⟩ | ⟨hc, hs⟩
    · exact .kept hc rfl hs
    · exact .promoted hc rfl hs

end Decides

namespace State

def Uses (s : State) (f : FlightId) : Prop :=
  s.holding.current = some f ∨ s.holding.standby = some f ∨ ∃ c, s.Chose c f

/-- An action is a decision, or it changes neither what is held nor what has been decided. -/
theorem Moves.decides_or {a : Action} (hm : Moves t s a s') :
    (∃ c now context d, s.holding.Decides s.outcome? s.flights.length context now s'.holding d ∧
      s'.history = s.history ++ [.decided c now d]) ∨
    s'.holding = s.holding ∧
      ∀ c now d, .decided c now d ∈ s'.history → .decided c now d ∈ s.history := by
  by_cases ha : ∃ c now, a = .decide c now
  · obtain ⟨c, now, rfl⟩ := ha
    obtain ⟨call, d, -, -, hd, -, hh⟩ := hm.decided
    exact .inl ⟨c, now, call.context, d, hd, hh⟩
  · refine .inr ⟨?_, fun c now d hl => ?_⟩
    · cases hm.holdingFrom with
      | same hh => exact hh
      | decided => exact absurd ⟨_, _, rfl⟩ ha
    · rcases hm.decided_line hl with hl | rfl
      · exact hl
      · exact absurd ⟨c, now, rfl⟩ ha

theorem chose_append {c i : CallId} {now : Instant} {d : Decision}
    (hh : s'.history = s.history ++ [.decided c now d]) (h : s'.Chose i f) :
    s.Chose i f ∨ i = c ∧ f = d.source := by
  obtain ⟨now', d', hl, rfl⟩ := h
  rw [hh] at hl
  rcases List.mem_append.mp hl with hl | hl
  · exact .inl ⟨now', d', hl, rfl⟩
  · obtain ⟨rfl, -, rfl⟩ : i = c ∧ now' = now ∧ d' = d := by simpa using hl
    exact .inr ⟨rfl, rfl⟩

theorem uses_source {h' : Holding} {d : Decision}
    (ha : s.holding.Advances s.flights.length h' d) : s.Uses d.source ∨ d.source = s.flights.length := by
  cases ha with
  | kept hc => exact .inl (.inl hc)
  | promoted hc => exact .inl (.inr (.inl hc))
  | opened hd => exact .inr (by rw [hd]; rfl)
  | renewing hc => exact .inl (hc.imp_right .inl)

theorem uses_standby {h' : Holding} {d : Decision}
    (ha : s.holding.Advances s.flights.length h' d) (hf : h'.standby = some f) :
    s.Uses f ∨ f = s.flights.length := by
  cases ha with
  | kept _ _ hs =>
    rcases hs with hs | hs <;> rw [hs] at hf
    · exact .inl (.inr (.inl hf))
    · cases hf
  | promoted _ _ hs | opened _ hs =>
    rw [hs] at hf
    cases hf
  | renewing _ _ hs =>
    rw [hs] at hf
    exact .inr (Option.some.inj hf).symm

/-- A flight that is used after an action was used before, or is new. -/
theorem Moves.uses {a : Action} (hm : Moves t s a s') (hf : s'.Uses f) :
    s.Uses f ∨ f = s.flights.length := by
  rcases hm.decides_or with ⟨c, now, context, d, hd, hh⟩ | ⟨hh, hl⟩
  · have hsource := uses_source hd.advances
    rcases hf with hf | hf | ⟨i, hf⟩
    · cases hf.symm.trans hd.current_eq
      exact hsource
    · exact uses_standby hd.advances hf
    · rcases chose_append hh hf with hf | ⟨-, rfl⟩
      · exact .inl (.inr (.inr ⟨i, hf⟩))
      · exact hsource
  · rcases hf with hf | hf | ⟨i, now, d, hd, hf⟩
    · exact .inl (.inl (hh ▸ hf))
    · exact .inl (.inr (.inl (hh ▸ hf)))
    · exact .inl (.inr (.inr ⟨i, now, d, hl i now d hd, hf⟩))

structure Ordered (s : State) : Prop where
  chosen (c : CallId) (f : FlightId) : s.Chose c f → ∃ g, s.holding.current = some g ∧ f ≤ g
  standby (f g : FlightId) : s.holding.current = some f → s.holding.standby = some g → f < g
  /-- Nobody uses a flight between that of a renewal and its source. -/
  between (c : CallId) (now : Instant) (f source : FlightId) (pass : Pass) :
    .decided c now (.renew f source pass) ∈ s.history →
      source < f ∧ ∀ g, s.Uses g → g ≤ source ∨ f ≤ g

namespace Ordered

theorem lt_length (ho : s.Ordered) (hs : s.holding.Sound s) (hf : s.Uses f) :
    f < s.flights.length := by
  have hcurrent : ∀ {g}, s.holding.current = some g → g < s.flights.length := by
    intro g hg
    obtain ⟨_, -, hk, -⟩ := hs.current g hg
    exact hk.lt_length
  rcases hf with hf | hf | ⟨c, hf⟩
  · exact hcurrent hf
  · obtain ⟨_, _, _, -, hk, -⟩ := hs.standby f hf
    exact hk.lt_length
  · obtain ⟨g, hg, hle⟩ := ho.chosen c f hf
    exact Nat.lt_of_le_of_lt hle (hcurrent hg)

/-- A decision does not go back behind the current flight. -/
theorem source_le {h' : Holding} {d : Decision} (ho : s.Ordered) (hs : s.holding.Sound s)
    (ha : s.holding.Advances s.flights.length h' d) (hf : s.holding.current = some f) :
    f ≤ d.source := by
  have hkept : s.holding.current = some d.source → f ≤ d.source := by
    intro hc
    cases hf.symm.trans hc
    exact Nat.le_refl _
  have hpromoted : s.holding.standby = some d.source → f ≤ d.source := fun hc =>
    Nat.le_of_lt (ho.standby f _ hf hc)
  cases ha with
  | kept hc => exact hkept hc
  | promoted hc => exact hpromoted hc
  | opened hd =>
    rw [hd]
    exact Nat.le_of_lt (ho.lt_length hs (.inl hf))
  | renewing hc => exact hc.elim hkept hpromoted

section Step

variable {c : CallId} {now : Instant} {context : Context} {d : Decision}

/-- After a decision nobody has decided on a flight newer than its own. -/
theorem chosen_le (ho : s.Ordered) (hs : s.holding.Sound s)
    (ha : s.holding.Advances s.flights.length s'.holding d)
    (hh : s'.history = s.history ++ [.decided c now d]) {i : CallId} (hf : s'.Chose i f) :
    f ≤ d.source := by
  rcases chose_append hh hf with hf | ⟨-, rfl⟩
  · obtain ⟨g, hg, hle⟩ := ho.chosen i f hf
    exact Nat.le_trans hle (ho.source_le hs ha hg)
  · exact Nat.le_refl _

theorem source_lt (ho : s.Ordered) (hs : s.holding.Sound s)
    (ha : s.holding.Advances s.flights.length s'.holding d) (hg : s'.holding.standby = some g) :
    d.source < g := by
  cases ha with
  | kept hc _ hkept =>
    rcases hkept with hkept | hkept <;> rw [hkept] at hg
    · exact ho.standby _ g hc hg
    · cases hg
  | promoted _ _ hnone | opened _ hnone =>
    rw [hnone] at hg
    cases hg
  | renewing hc _ hnext =>
    rw [hnext] at hg
    cases hg
    exact ho.lt_length hs (hc.imp_right .inl)

/-- A renewal begins beside the newest flight in use. -/
theorem between_opened (ho : s.Ordered) (hs : s.holding.Sound s) {source : FlightId} {pass : Pass}
    (hd : s.holding.Decides s.outcome? s.flights.length context now s'.holding (.renew f source pass))
    (hh : s'.history = s.history ++ [.decided c now (.renew f source pass)]) :
    source < f ∧ ∀ g, s'.Uses g → g ≤ source ∨ f ≤ g := by
  obtain rfl : f = s.flights.length := hd.opens (.inr ⟨source, pass, rfl⟩)
  have ha := hd.advances
  have hstandby : s'.holding.standby = some s.flights.length := by
    cases ha with
    | kept _ hnone | promoted _ hnone => cases hnone
    | opened hacquire => cases hacquire
    | renewing _ _ hnext => exact hnext
  refine ⟨ho.source_lt hs ha hstandby, fun g hg => ?_⟩
  rcases hg with hg | hg | ⟨i, hg⟩
  · cases hg.symm.trans hd.current_eq
    exact .inl (Nat.le_refl _)
  · cases hg.symm.trans hstandby
    exact .inr (Nat.le_refl _)
  · exact .inl (ho.chosen_le hs ha hh hg)

end Step

end Ordered

end State

theorem Reachable.ordered (hr : Reachable t s) : s.Ordered := by
  refine hr.induct (P := State.Ordered)
    ⟨fun c f ⟨_, _, hl, _⟩ => by simp at hl, nofun, by simp⟩ fun a x y hx hm ih => ?_
  have hs := hx.sound
  -- a renewal that is under way stays clear of what comes to be used
  have hbetween : ∀ {c now f source pass}, .decided c now (.renew f source pass) ∈ x.history →
      source < f ∧ ∀ g, y.Uses g → g ≤ source ∨ f ≤ g := by
    intro c now f source pass hl
    obtain ⟨hlt, hb⟩ := ih.between c now f source pass hl
    refine ⟨hlt, fun g hg => ?_⟩
    rcases hm.uses hg with hg | rfl
    · exact hb g hg
    · obtain ⟨flight, hf, -⟩ := State.mode?_eq_some.mp (hx.decided_role hl rfl)
      exact .inr (Nat.le_of_lt (List.getElem?_eq_some_iff.mp hf).1)
  rcases hm.decides_or with ⟨c, now, context, d, hd, hh⟩ | ⟨hh, hold⟩
  · refine ⟨fun i f hf => ⟨d.source, hd.current_eq, ih.chosen_le hs hd.advances hh hf⟩, ?_, ?_⟩
    · intro f g hf hg
      cases hf.symm.trans hd.current_eq
      exact ih.source_lt hs hd.advances hg
    · intro i now' f source pass hl
      rw [hh] at hl
      rcases List.mem_append.mp hl with hl | hl
      · exact hbetween hl
      · obtain ⟨rfl, rfl, rfl⟩ : i = c ∧ now' = now ∧ .renew f source pass = d := by simpa using hl
        exact ih.between_opened hs hd hh
  · refine ⟨fun i f hf => ?_, fun f g hf hg => ih.standby f g (hh ▸ hf) (hh ▸ hg), ?_⟩
    · obtain ⟨now, d, hl, rfl⟩ := hf
      obtain ⟨g, hg, hle⟩ := ih.chosen i _ ⟨now, d, hold i now d hl, rfl⟩
      exact ⟨g, hh ▸ hg, hle⟩
    · exact fun i now f source pass hl => hbetween (hold i now _ hl)

/-! ## One renewal for each flight -/

/-- No two renewals share a flight, nor does a renewal with a call that is about to start one. -/
structure State.Apart (s : State) : Prop where
  unique (r r' : RenewalId) (renewal renewal' : Renewal) : s.renewals[r]? = some renewal →
    s.renewals[r']? = some renewal' → renewal.flight = renewal'.flight → r = r'
  launching (r : RenewalId) (renewal : Renewal) (c : CallId) (call : Call) (source : FlightId)
    (pass : Pass) : s.renewals[r]? = some renewal → s.calls[c]? = some call →
      call.point ≠ .launching renewal.flight source pass

theorem Reachable.apart (hr : Reachable t s) : s.Apart := by
  refine hr.induct (P := State.Apart) ⟨by simp, by simp⟩ fun a x y hx hm ih => ?_
  have hdrives : ∀ {c : CallId} {call : Call} {f source : FlightId} {pass : Pass},
      x.calls[c]? = some call → call.point = .launching f source pass →
        x.drives? (.call c) = some (.background, f) := by
    intro c call f source pass hc hp
    rw [State.drives?_call hc, hp]
    rfl
  refine ⟨fun r r' renewal renewal' h h' hflight => ?_, fun r renewal c call source pass h hc hp => ?_⟩
  -- a new renewal is that of a call which launched, so no renewal had its flight
  · rcases hm.renewal_before_or h with ⟨q, hb⟩ | ⟨i, _, _, hlen, hi, hp, -⟩
    · rcases hm.renewal_before_or h' with ⟨q', hb'⟩ | ⟨i', _, _, hlen', hi', hp', -⟩
      · exact ih.unique r r' _ _ hb hb' hflight
      · exact absurd (hflight ▸ hp') (ih.launching r _ i' _ _ _ hb hi')
    · rcases hm.renewal_before_or h' with ⟨q', hb'⟩ | ⟨i', _, _, hlen', -⟩
      · exact absurd (hflight ▸ hp) (ih.launching r' _ i _ _ _ hb' hi)
      · rw [hlen, hlen']
  -- a call that launches now did so before, since a flight with a renewal is not new
  · rcases hm.renewal_before_or h with ⟨q, hb⟩ | ⟨i, starter, q, -, hi, hq, hnow, hdone⟩
    · obtain ⟨old, ho, hold⟩ := hm.launching_old (hx.renewal_seeks hb).lt_length hc hp
      exact ih.launching r _ c old source pass hb ho hold
    · have hlt := hx.matched.lt_length (hdrives hi hq)
      obtain ⟨old, ho, hold⟩ := hm.launching_old hlt hc hp
      cases hx.matched.unique _ _ _ _ _ (hdrives hi hq) (hdrives ho hold)
      cases hnow.symm.trans hc
      exact hdone _ _ _ hp

/-! ## A renewal brings a token or keeps a pass -/

theorem Renewal.Keeps.ends {r i : RenewalId} {renewal : Renewal} {now now' : Instant}
    {delay : Duration} {reason reason' : Reason} {error : String} {p : Point}
    {lines : List Happening} (hk : renewal.Keeps r now delay reason error p lines)
    (hl : .kept i now' reason' ∈ lines) : i = r ∧ p.ending? = some .fellBack := by
  cases hk with
  | kept =>
    obtain ⟨rfl, -⟩ : i = r ∧ now' = now ∧ reason' = reason := by simpa using hl
    exact ⟨rfl, rfl⟩
  | lost => simp at hl

/-- A renewal that keeps its pass is counted as one that fell back. -/
theorem Reachable.kept_ends (hr : Reachable t s) {r : RenewalId} {now : Instant} {reason : Reason}
    (hl : .kept r now reason ∈ s.history) : s.EndsAs r .fellBack := by
  refine hr.induct (P := fun x => .kept r now reason ∈ x.history → x.EndsAs r .fellBack) (by simp)
    (fun a x y _ hm ih => ?_) hl
  intro hl
  cases hm.lineFrom hl with
  | same hl => exact (ih hl).step hm
  | walked _ hw hl => cases hw <;> simp at hl
  | started _ _ _ hs hl hnew =>
    cases hs with
    | hosted => simp at hl
    | alone hk =>
      obtain ⟨rfl, he⟩ := hk.ends hl
      exact ⟨_, hnew, he⟩
  | walkedRenewal _ hw hl hafter =>
    cases hw with
    | refused _ hk =>
      obtain ⟨rfl, he⟩ := hk.ends (by simpa using hl)
      exact ⟨_, hafter, he⟩
    | expire _ hk =>
      obtain ⟨rfl, he⟩ := hk.ends hl
      exact ⟨_, hafter, he⟩
    | begin | ask | answered | unfit | abandon => simp at hl

/-- A renewal that gets a token is not counted as one that fell back. -/
theorem Reachable.answered_ends (hr : Reachable t s) {r : RenewalId} {token : Token}
    (hl : .answered (.renewal r) (.ok token) ∈ s.history) :
    ∃ ending, s.EndsAs r ending ∧ ending ≠ .fellBack := by
  refine hr.induct (P := fun x => .answered (.renewal r) (.ok token) ∈ x.history →
    ∃ ending, x.EndsAs r ending ∧ ending ≠ .fellBack) (by simp) (fun a x y _ hm ih => ?_) hl
  intro hl
  cases hm.lineFrom hl with
  | same hl =>
    obtain ⟨ending, he, hn⟩ := ih hl
    exact ⟨ending, he.step hm, hn⟩
  | walked _ hw hl => cases hw <;> simp at hl
  | started _ _ _ hs hl =>
    cases hs with
    | hosted => simp at hl
    | alone hk => cases hk <;> simp at hl
  | walkedRenewal _ hw hl hafter =>
    cases hw with
    | answered | unfit =>
      obtain ⟨rfl, -⟩ : r = _ ∧ token = _ := by simpa using hl
      exact ⟨_, ⟨_, hafter, rfl⟩, nofun⟩
    | refused _ hk | expire _ hk => cases hk <;> simp at hl
    | begin | ask | abandon => simp at hl

/-! ## Cycles -/

/-- What a flight holds stems from that flight or an older one. -/
theorem Reachable.stems_le_self (hr : Reachable t s) {token : Token} (hs : s.Stems f g token) :
    g ≤ f := by
  induction hs with
  | acquired => exact Nat.le_refl _
  | renewed => exact Nat.le_refl _
  | kept h _ _ ih =>
    obtain ⟨c, now, hl⟩ := hr.renewal_decided h
    exact Nat.le_of_lt (Nat.lt_of_le_of_lt ih (hr.ordered.between c now _ _ _ hl).1)

/-- A flight that holds the kept pass of a renewal stems from nothing but the renewal's source. -/
theorem Reachable.stems_source (hr : Reachable t s) {r : RenewalId} {renewal : Renewal}
    {now : Instant} {reason : Reason} {token : Token} (h : s.renewals[r]? = some renewal)
    (hk : .kept r now reason ∈ s.history) (hf : f = renewal.flight) (hs : s.Stems f g token) :
    s.Stems renewal.source g token := by
  cases hs with
  | acquired hd =>
    have hmode : s.mode? f = some .synchronous := hr.decided_role hd rfl
    rw [hf, hr.renewal_background h] at hmode
    cases hmode
  | @renewed r' renewal' token h' ha =>
    cases hr.apart.unique r' r renewal' renewal h' h hf
    obtain ⟨ending, he, hn⟩ := hr.answered_ends ha
    exact absurd (he.congr (hr.kept_ends hk)) hn
  | @kept r' renewal' _ _ _ token h' _ hs' =>
    cases hr.apart.unique r' r renewal' renewal h' h hf
    cases h.symm.trans h'
    exact hs'

/-- Flights stem from cycles in their own order, if calls decide on the older one. -/
theorem Reachable.stems_mono (hr : Reachable t s) {f' g' : FlightId} {token token' : Token}
    (hs' : s.Stems f' g' token') {c : CallId} (hc : s.Chose c f) (hle : f ≤ f')
    (hs : s.Stems f g token) : g ≤ g' := by
  induction hs' generalizing c f with
  | acquired => exact Nat.le_trans (hr.stems_le_self hs) hle
  | renewed => exact Nat.le_trans (hr.stems_le_self hs) hle
  | kept h hk _ ih =>
    obtain ⟨i, now, hl⟩ := hr.renewal_decided h
    -- nothing between the renewal's flight and its source has been decided on
    rcases (hr.ordered.between i now _ _ _ hl).2 f (.inr (.inr ⟨c, hc⟩)) with hold | hnew
    · exact ih hc hold hs
    · have hsource := hr.stems_source h hk (Nat.le_antisymm hle hnew) hs
      exact ih ⟨now, _, hl, rfl⟩ (Nat.le_refl _) hsource

/-! ## One call after another -/

/-- A call that begins after another has decided does not decide on an older flight. -/
theorem Reachable.chose_le (hr : Reachable t s) {actions : List Action}
    (hrun : s.run? t actions = some s') {c c' : CallId} (hc : s.Chose c f)
    (hnew : s.calls.length ≤ c') {f' : FlightId} (hc' : s'.Chose c' f') : f ≤ f' := by
  have hrow := State.run_induction
    (P := fun x => Reachable t x ∧ x.Chose c f ∧ ∀ f', x.Chose c' f' → f ≤ f') hrun
    ⟨hr, hc, fun f' ⟨_, _, hl, _⟩ => absurd (hr.decided_call hl) (Nat.not_lt.mpr hnew)⟩ ?_
  · exact hrow.2.2 f' hc'
  · intro a x y _ hy ⟨hx, hchose, ih⟩
    have hm := State.step_moves hy
    have hchose' := hchose.mono hm.extends
    refine ⟨hx.step hy, hchose', fun f' hf' => ?_⟩
    rcases hm.decides_or with ⟨i, now, context, d, hd, hh⟩ | ⟨-, hold⟩
    · rcases State.chose_append hh hf' with hf' | ⟨-, rfl⟩
      · exact ih f' hf'
      · -- the flight of a new decision is the current one, and that is as new as any decided on
        obtain ⟨g, hg, hle⟩ := (hx.step hy).ordered.chosen c f hchose'
        cases hg.symm.trans hd.current_eq
        exact hle
    · obtain ⟨now, d, hl, rfl⟩ := hf'
      exact ih _ ⟨now, d, hold c' now d hl, rfl⟩

def State.Brought (s : State) (c : CallId) (header : String) (g : FlightId) : Prop :=
  ∃ before now d pass token, s.Decided c before now d ∧ s.outcome? d.source = some (.ready pass) ∧
    pass.header = header ∧ s.Stems d.source g token ∧ pass.Carries token

theorem Reachable.brought (hr : Reachable t s) {c : CallId} {call : Call} {header : String}
    (hc : s.calls[c]? = some call) (hp : call.point = .done (.returned (.ok header))) :
    ∃ g, s.Brought c header g := by
  obtain ⟨before, now, d, pass, hd, ho, hheader, -⟩ := hr.supplied hc hp
  obtain ⟨g, token, hstems, hcarries⟩ := hr.traced ho
  exact ⟨g, before, now, d, pass, token, hd, ho, hheader, hstems, hcarries⟩

/-- A call that begins after another has returned a header gets one of the same cycle or a later one,
whatever their contexts are. -/
theorem Reachable.never_older (hr : Reachable t s) {c c' : CallId} {call call' : Call}
    {header header' : String} {actions : List Action} (hc : s.calls[c]? = some call)
    (hp : call.point = .done (.returned (.ok header))) (hrun : s.run? t actions = some s')
    (hnew : s.calls.length ≤ c') (hc' : s'.calls[c']? = some call')
    (hp' : call'.point = .done (.returned (.ok header'))) :
    (∃ g, s.Brought c header g) ∧ (∃ g', s'.Brought c' header' g') ∧
      ∀ g g', s.Brought c header g → s'.Brought c' header' g' → g ≤ g' := by
  have hr' := hr.run hrun
  refine ⟨hr.brought hc hp, hr'.brought hc' hp', ?_⟩
  rintro g g' ⟨_, now, d, _, token, hd, _, _, hs, _⟩ ⟨_, now', d', _, token', hd', _, _, hs', _⟩
  have hchose : s.Chose c d.source := ⟨now, d, hd.mem, rfl⟩
  have hchose' : s'.Chose c' d'.source := ⟨now', d', hd'.mem, rfl⟩
  have hle : d.source ≤ d'.source := hr.chose_le hrun hchose hnew hchose'
  have he := State.run_extends hrun
  exact hr'.stems_mono hs' (hchose.mono he) hle (hs.mono he)

/-- A call starts a renewal that falls back, and a later call is served what the renewal kept. -/
def renewedRow : List Action :=
  [.call {} .async false false, .decide 0 ⟨0⟩, .enter 0, .ask 0,
    .answer 0 (.ok (.ofText "T1" ⟨600000000000⟩)), .close 0,
    .call {} .async false false, .decide 1 ⟨400000000000⟩, .settle 1 ⟨400000000000⟩,
    .closeRenewal 0, .countRenewal 0, .finish 1]

def servedRow : List Action := [.call {} .async false false, .decide 2 ⟨400000000000⟩]

theorem never_older_servedRow : ∃ s s', State.run? {} {} renewedRow = some s ∧
    s.run? {} servedRow = some s' ∧ (∃ g, s.Brought 1 "Bearer T1" g) ∧
      (∃ g', s'.Brought 2 "Bearer T1" g') ∧
        ∀ g g', s.Brought 1 "Bearer T1" g → s'.Brought 2 "Bearer T1" g' → g ≤ g' := by
  obtain ⟨s, s', call, call', h, hrun, hlen, hc, hp, hc', hp'⟩ : ∃ s s' call call',
      State.run? {} {} renewedRow = some s ∧ s.run? {} servedRow = some s' ∧ s.calls.length ≤ 2 ∧
        s.calls[1]? = some call ∧ call.point = .done (.returned (.ok "Bearer T1")) ∧
          s'.calls[2]? = some call' ∧ call'.point = .done (.returned (.ok "Bearer T1")) :=
    ⟨_, _, _, _, rfl, rfl, Nat.le_refl _, rfl, rfl, rfl, rfl⟩
  exact ⟨s, s', h, hrun, Reachable.never_older ⟨_, h⟩ hc hp hrun hlen hc' hp'⟩

end BearerTokens.Cache
