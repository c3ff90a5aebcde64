import BearerTokens.Proofs.Cache.Drivers
import BearerTokens.Proofs.Cache.Parts

/-! # What the cache, its calls and its renewals hold

Every flight that is held somewhere was opened for a context equivalent to the one of its holder.
The current flight is that of a call, or of a renewal that has brought a pass; the flight on standby
is that of a renewal beside a current flight with a pass.
-/

namespace BearerTokens.Cache

namespace State

def Seeks (s : State) (f : FlightId) (context : Context) : Prop :=
  ∃ flight : Flight, s.flights[f]? = some flight ∧ flight.context.Equivalent context

def mode? (s : State) (f : FlightId) : Option Mode := (s.flights[f]?).map (·.mode)

variable {t : Timing} {s s' : State} {f : FlightId} {context context' : Context}

theorem Seeks.trans (hf : s.Seeks f context) (he : context.Equivalent context') :
    s.Seeks f context' := by
  obtain ⟨flight, hf, hc⟩ := hf
  exact ⟨flight, hf, hc.trans he⟩

theorem Seeks.mono (hf : s.Seeks f context) (he : Extends s s') : s'.Seeks f context := by
  obtain ⟨flight, hf, hc⟩ := hf
  obtain ⟨flight', hf', -, hc', -⟩ := he.flight f flight hf
  exact ⟨flight', hf', hc'.symm ▸ hc⟩

theorem Seeks.lt_length (hf : s.Seeks f context) : f < s.flights.length := by
  obtain ⟨flight, hf, -⟩ := hf
  exact (List.getElem?_eq_some_iff.mp hf).1

theorem mode?_mono {m : Mode} (hm : s.mode? f = some m) (he : Extends s s') :
    s'.mode? f = some m := by
  obtain ⟨flight, hf, rfl⟩ := Option.map_eq_some_iff.mp hm
  obtain ⟨flight', hf', hm', -⟩ := he.flight f flight hf
  simp [mode?, hf', hm']

/-- A flight that exists keeps its role. -/
theorem Seeks.mode?_eq (hf : s.Seeks f context) (he : Extends s s') : s'.mode? f = s.mode? f := by
  obtain ⟨flight, hf, -⟩ := hf
  obtain ⟨flight', hf', hm', -⟩ := he.flight f flight hf
  simp [mode?, hf, hf', hm']

end State

/-! ## The holding -/

structure Holding.Sound (s : State) (h : Holding) : Prop where
  stored (context : Context) : h.context = some context →
    (∃ f, h.current = some f) ∧
      ∃ (c : CallId) (call : Call), s.calls[c]? = some call ∧ call.context = context
  current (f : FlightId) : h.current = some f → ∃ context, h.context = some context ∧
    s.Seeks f context ∧ (s.mode? f = some .background → ∃ pass, s.outcome? f = some (.ready pass))
  standby (f : FlightId) : h.standby = some f → ∃ context g pass, h.context = some context ∧
    s.Seeks f context ∧ s.mode? f = some .background ∧ h.current = some g ∧
      s.outcome? g = some (.ready pass)

namespace Holding

variable {s s' : State} {h h' m : Holding} {now : Instant} {context : Context} {d : Decision}

theorem Sound.mono (hs : h.Sound s) (he : Extends s s') : h.Sound s' := by
  refine ⟨fun context hc => ?_, fun f hf => ?_, fun f hf => ?_⟩
  · obtain ⟨hf, c, call, hcall, hctx⟩ := hs.stored context hc
    obtain ⟨call', hcall', hctx', -⟩ := he.call c call hcall
    exact ⟨hf, c, call', hcall', hctx'.trans hctx⟩
  · obtain ⟨context, hc, hk, ho⟩ := hs.current f hf
    refine ⟨context, hc, hk.mono he, fun hm => ?_⟩
    obtain ⟨pass, hp⟩ := ho (hk.mode?_eq he ▸ hm)
    exact ⟨pass, he.outcome hp⟩
  · obtain ⟨context, g, pass, hc, hk, hm, hg, hp⟩ := hs.standby f hf
    exact ⟨context, g, pass, hc, hk.mono he, State.mode?_mono hm he, hg, he.outcome hp⟩

theorem Promotes.sound (hm : Promotes s.outcome? now h m) (hs : h.Sound s) : m.Sound s := by
  cases hm with
  | kept => exact hs
  | @promoted f pass hf ho he =>
    obtain ⟨context, g, pass', hc, hk, hmode, hg, hp⟩ := hs.standby f hf
    refine ⟨fun context' hc' => ⟨⟨f, rfl⟩, (hs.stored context' hc').2⟩, ?_, nofun⟩
    rintro _ ⟨⟩
    exact ⟨context, hc, hk, fun _ => ⟨pass, ho⟩⟩
  | forgotten => exact ⟨hs.stored, hs.current, nofun⟩

/-- A new current flight belongs to the call that decides. -/
theorem Sound.opened {stored : Context} {f : FlightId} (hs : h.Sound s') (hc : h.context = some stored)
    (he : stored.Equivalent context)
    (ho : s'.flights[f]? = some { mode := .synchronous, context := context }) :
    (h.restart f).Sound s' := by
  refine ⟨fun context' hc' => ⟨⟨f, rfl⟩, (hs.stored context' hc').2⟩, ?_, nofun⟩
  rintro _ ⟨⟩
  exact ⟨stored, hc, ⟨_, ho, he.symm⟩, fun hm => by simp [State.mode?, ho] at hm⟩

/-- What a call decides keeps the holding sound.  The state after shows the flight that the decision
opens and the call itself. -/
theorem Decides.sound (hd : h.Decides s.outcome? s.flights.length context now h' d)
    (hs : h.Sound s) (he : Extends s s')
    (ho : ∀ m, d.opens? = some m →
      s'.flights[s.flights.length]? = some { mode := m, context := context })
    (hc : ∃ (c : CallId) (call : Call), s'.calls[c]? = some call ∧ call.context = context) : h'.Sound s' := by
  cases hd with
  | anew =>
    have hf := ho .synchronous rfl
    refine ⟨?_, ?_, nofun⟩
    · rintro _ ⟨⟩
      exact ⟨⟨_, rfl⟩, hc⟩
    · rintro _ ⟨⟩
      exact ⟨context, rfl, ⟨_, hf, .refl _⟩, fun hm => by simp [State.mode?, hf] at hm⟩
  | wait => exact hs.mono he
  | lapsed hctx heq _ _ hm =>
    have hm' := (hm.sound hs).mono he
    exact hm'.opened (hm.context_eq.trans hctx) heq (ho .synchronous rfl)
  | renew hctx heq _ _ hm hu =>
    have hm' := (hm.sound hs).mono he
    obtain ⟨hcur, hready, -⟩ := usable_eq_some.mp hu
    have hf := ho .background rfl
    refine ⟨hm'.stored, hm'.current, ?_⟩
    rintro _ ⟨⟩
    exact ⟨_, _, _, hm.context_eq.trans hctx, ⟨_, hf, heq.symm⟩, by simp [State.mode?, hf], hcur,
      he.outcome hready⟩
  | serve _ _ _ _ hm => exact (hm.sound hs).mono he

end Holding

/-- In a reachable state the holding is sound. -/
theorem Reachable.sound {t : Timing} {s : State} (hr : Reachable t s) : s.holding.Sound s := by
  refine hr.induct (P := fun x => x.holding.Sound x) ⟨nofun, nofun, nofun⟩ fun a x y _ hm hx => ?_
  cases hm.holdingFrom with
  | same hh => rw [hh]; exact hx.mono hm.extends
  | decided _ _ hd ho hl => exact hd.sound hx hm.extends ho ⟨_, _, hl, rfl⟩

/-! ## Calls and renewals -/

def Call.Point.Placed (s : State) (context : Context) : Call.Point → Prop
  | .opening f | .calling f | .asking f | .closing f _ _ | .launching f _ _ => s.Seeks f context
  | .waiting f => s.Seeks f context ∧ s.mode? f = some .synchronous
  | .deciding | .settling _ _ | .done _ => True

variable {t : Timing} {s s' : State}

theorem Call.Point.Placed.mono {context : Context} {p : Call.Point} (hp : p.Placed s context)
    (he : Extends s s') : p.Placed s' context := by
  cases p with
  | waiting f => exact ⟨State.Seeks.mono hp.1 he, State.mode?_mono hp.2 he⟩
  | deciding | settling _ _ | done _ => trivial
  | _ => exact State.Seeks.mono hp he

theorem Call.Walks.placed {c : CallId} {call : Call} {a : Action} {p : Point}
    {lines : List Happening} {tally : Metrics → Metrics} (hw : call.Walks t s c a p lines tally)
    (hp : call.point.Placed s call.context) : p.Placed s call.context := by
  cases hw with
  | withdraw _ hq => rcases hq with hq | hq <;> (rw [hq] at hp; exact hp)
  | withdrawEarly | withdrawWaiting | again | share | finish | dropIdle => trivial
  | enter hq | ask hq | answered hq | unfit hq | refused hq | crash hq | drop _ hq =>
    rw [hq] at hp
    exact hp

/-- A call that is told to wait waits on a call's flight for an equivalent context. -/
theorem Holding.Decides.placed {context : Context} {now : Instant} {h' : Holding} {d : Decision}
    (hd : s.holding.Decides s.outcome? s.flights.length context now h' d)
    (hs : s.holding.Sound s) (he : Extends s s')
    (ho : ∀ m, d.opens? = some m →
      s'.flights[s.flights.length]? = some { mode := m, context := context }) :
    d.leads.Placed s' context := by
  cases hd with
  | anew => exact ⟨_, ho .synchronous rfl, .refl _⟩
  | lapsed => exact ⟨_, ho .synchronous rfl, .refl _⟩
  | renew => exact ⟨_, ho .background rfl, .refl _⟩
  | serve => trivial
  | @wait stored f hc heq hf hpending =>
    obtain ⟨context', hc', hk, hready⟩ := hs.current f hf
    obtain rfl : stored = context' := Option.some.inj (hc.symm.trans hc')
    have hmode : s.mode? f = some .synchronous := by
      cases hm : s.mode? f with
      | none =>
        obtain ⟨flight, hfl, -⟩ := hk
        simp [State.mode?, hfl] at hm
      | some m =>
        cases m with
        | synchronous => rfl
        | background =>
          obtain ⟨pass, hp⟩ := hready hm
          rw [hpending] at hp
          cases hp
    exact ⟨(hk.trans heq).mono he, State.mode?_mono hmode he⟩

/-- In a reachable state every call drives or waits on a flight for a context like its own. -/
theorem Reachable.placed (hr : Reachable t s) {c : CallId} {call : Call}
    (hc : s.calls[c]? = some call) : call.point.Placed s call.context := by
  refine hr.induct (P := fun x => ∀ (c : CallId) (call : Call), x.calls[c]? = some call →
    call.point.Placed x call.context) (fun c call h => by simp at h) (fun a x y hx hm ih => ?_) c call hc
  intro c call hc
  have he := hm.extends
  cases hm.callFrom hc with
  | same hi => exact (ih c call hi).mono he
  | added hp => rcases hp with rfl | ⟨fault, rfl⟩ <;> trivial
  | flagged hi => exact (ih c _ hi).mono he
  | decided _ _ hd ho => exact hd.placed hx.sound he ho
  | walked hi hw => exact (hw.placed (ih c _ hi)).mono he
  | closed => trivial
  | launched _ _ _ hs => cases hs <;> trivial

/-- In a reachable state every renewal has a flight of its context. -/
theorem Reachable.renewal_seeks (hr : Reachable t s) {r : RenewalId} {renewal : Renewal}
    (h : s.renewals[r]? = some renewal) : s.Seeks renewal.flight renewal.context := by
  refine hr.induct (P := fun x => ∀ (r : RenewalId) (renewal : Renewal),
    x.renewals[r]? = some renewal → x.Seeks renewal.flight renewal.context)
    (fun r renewal h => by simp at h) (fun a x y hx hm ih => ?_) r renewal h
  intro r renewal h
  have he := hm.extends
  cases hm.renewalFrom h with
  | same hi => exact (ih r renewal hi).mono he
  | started hc hp hr =>
    have hk := hx.placed hc
    rw [hp] at hk
    subst hr
    exact State.Seeks.mono hk he
  | walked hi => exact (ih r _ hi).mono he
  | closed hi => exact (ih r _ hi).mono he
  | counted hi => exact (ih r _ hi).mono he

end BearerTokens.Cache
