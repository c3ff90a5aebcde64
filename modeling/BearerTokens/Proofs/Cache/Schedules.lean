import BearerTokens.Proofs.Cache.Retries
import BearerTokens.Proofs.Time.Instant
import BearerTokens.Proofs.Timing.Settings

/-! # When the next renewal is due

The instant of the next renewal is computed where a pass comes up.  A pass for a token of the credential is due the
lead before it expires.  A pass that a renewal keeps is due a delay after the clock reading at which the renewal gave
up.  So the signs of the two settings decide whether a pass is due before it expires, and not before it is kept.
-/

namespace BearerTokens

variable {p q : Pass} {now : Instant}

theorem Pass.renewal_le_expiry_iff {token : Token} {lead : Duration}
    (h : Pass.ofToken? token lead = some p) : p.renewal ≤ p.expiry ↔ 0 ≤ lead.nanos := by
  obtain ⟨due, hdue, rfl⟩ := Option.map_eq_some_iff.mp h
  obtain ⟨rfl, -⟩ := Instant.before?_eq_some_iff.mp hdue
  simp only [Instant.le_iff]
  omega

theorem Pass.le_renewal_iff {delay : Duration} (h : p.deferred? now delay = some q) :
    now ≤ q.renewal ↔ 0 ≤ delay.nanos := by
  obtain ⟨due, hdue, rfl⟩ := Option.map_eq_some_iff.mp h
  obtain ⟨rfl, -⟩ := Instant.after?_eq_some_iff.mp hdue
  simp only [Instant.le_iff]
  omega

theorem Pass.deferred?_eq_some {delay : Duration} (hheader : q.header = p.header)
    (hexpiry : q.expiry = p.expiry) (hdue : now.after? delay = some q.renewal) :
    p.deferred? now delay = some q := by
  simp [Pass.deferred?, hdue, ← hheader, ← hexpiry]

/-- After a timeout the next renewal is due at once, whatever the settings. -/
theorem Reason.delay_nonneg_iff {t : Timing} (reason : Reason) :
    0 ≤ (reason.delay t).nanos ↔ reason = .timeout ∨ 0 ≤ t.retry.nanos := by
  cases reason <;> simp [Reason.delay, Duration.zero]

namespace Cache

variable {t : Timing} {s s' : State} {f : FlightId} {c : CallId} {r : RenewalId}

namespace State

inductive Made (t : Timing) (s : State) (f : FlightId) (p : Pass) : Prop where
  /-- It was made for a token that the credential gave to the flight. -/
  | issued {token : Token} (hs : s.Stems f f token) (ht : Pass.ofToken? token t.lead = some p)
  /-- A renewal kept its previous pass. -/
  | kept {r : RenewalId} {renewal : Renewal} {now : Instant} {reason : Reason}
      (h : s.renewals[r]? = some renewal) (hf : renewal.flight = f)
      (hk : .kept r now reason ∈ s.history)
      (hd : renewal.previous.deferred? now (reason.delay t) = some p)

theorem Made.mono (h : s.Made t f p) (he : Extends s s') : s'.Made t f p := by
  cases h with
  | issued hs ht => exact .issued (hs.mono he) ht
  | kept h hf hk hd =>
    obtain ⟨point, hp⟩ := he.renewal _ _ h
    exact .kept hp hf (he.history.subset hk) hd

end State

/-- A call writes a pass that it made for its token. -/
theorem Reachable.call_made (hr : Reachable t s) {call : Call} {exit : Exit}
    (hc : s.calls[c]? = some call) (hp : call.point = .closing f (.ready p) exit) :
    s.Made t f p := by
  refine hr.induct (P := fun x => ∀ call : Call, x.calls[c]? = some call →
    call.point = .closing f (.ready p) exit → x.Made t f p) (by simp) (fun a x y hx hm ih => ?_)
    call hc hp
  intro call hc hp
  have he := hm.extends
  cases hm.callFrom hc with
  | same hi => exact (ih call hi hp).mono he
  | added hq => rcases hq with rfl | ⟨fault, rfl⟩ <;> cases hp
  | @flagged _ before hi => exact (ih before hi hp).mono he
  | @decided _ _ _ d => cases d <;> cases hp
  | walked hi hw hh =>
    cases hw with
    | answered hq ht =>
      cases hp
      obtain ⟨now, hd⟩ := hx.driving_decided hi (by rw [hq]; rfl)
      exact .issued (.acquired (he.history.subset hd) (by simp [hh])) ht
    | _ => cases hp
  | closed => cases hp
  | launched _ _ _ hstart => cases hstart <;> cases hp

/-- A renewal writes a pass that it made for its token, or keeps the previous one. -/
theorem Reachable.renewal_made (hr : Reachable t s) {renewal : Renewal} {ending : Ending}
    (h : s.renewals[r]? = some renewal) (hp : renewal.point = .closing (.ready p) ending) :
    s.Made t renewal.flight p := by
  cases hr.closing_brings h hp with
  | fresh ht hl => exact .issued (.renewed h hl) ht
  | copy hheader hexpiry =>
    obtain ⟨now, reason, hk⟩ := hr.fellBack_kept ⟨renewal, h, by rw [hp]; rfl⟩
    obtain ⟨pass, hpass, hdue, -⟩ := hr.kept_closing hk h hp
    cases hpass
    exact .kept h rfl hk (Pass.deferred?_eq_some hheader hexpiry hdue)

theorem Reachable.flight_made (hr : Reachable t s) {flight : Flight}
    (hf : s.flights[f]? = some flight) (hp : flight.outcome = some (.ready p)) : s.Made t f p := by
  refine hr.induct (P := fun x => ∀ flight : Flight, x.flights[f]? = some flight →
    flight.outcome = some (.ready p) → x.Made t f p) (by simp) (fun a x y hx hm ih => ?_)
    flight hf hp
  intro flight hf hp
  have he := hm.extends
  cases hm.flightFrom hf with
  | same hi => exact (ih flight hi hp).mono he
  | opened => cases hp
  | closed hc hq hb =>
    rcases Flight.outcome_write hp with hp | rfl
    · exact (ih _ hb hp).mono he
    · exact (hx.call_made hc hq).mono he
  | filled h hq hb =>
    rcases Flight.outcome_write hp with hp | rfl
    · exact (ih _ hb hp).mono he
    · exact (hx.renewal_made h hq).mono he

/-- The flight has the pass, or whoever drives it is about to write it. -/
inductive State.Bears (s : State) (f : FlightId) (p : Pass) : Prop where
  | written (ho : s.outcome? f = some (.ready p))
  | call {c : CallId} {call : Call} {exit : Exit} (hc : s.calls[c]? = some call)
      (hp : call.point = .closing f (.ready p) exit)
  | renewal {r : RenewalId} {renewal : Renewal} {ending : Ending}
      (h : s.renewals[r]? = some renewal) (hf : renewal.flight = f)
      (hp : renewal.point = .closing (.ready p) ending)

theorem Reachable.made (hr : Reachable t s) (hb : s.Bears f p) : s.Made t f p := by
  cases hb with
  | written ho =>
    obtain ⟨flight, hf, hp⟩ := Option.bind_eq_some_iff.mp ho
    exact hr.flight_made hf hp
  | call hc hp => exact hr.call_made hc hp
  | renewal h hf hp => exact hf ▸ hr.renewal_made h hp

/-! ## The signs of the settings -/

structure State.Paced (t : Timing) (s : State) (f : FlightId) (p : Pass) : Prop where
  made : s.Made t f p
  /-- A pass for a token is due by its expiry. -/
  issued (token : Token) : Pass.ofToken? token t.lead = some p →
    (p.renewal ≤ p.expiry ↔ 0 ≤ t.lead.nanos)
  /-- A pass that is kept is not due before. -/
  kept (r : RenewalId) (renewal : Renewal) (now : Instant) (reason : Reason) :
    s.renewals[r]? = some renewal → .kept r now reason ∈ s.history →
      renewal.previous.deferred? now (reason.delay t) = some p →
        (now ≤ p.renewal ↔ reason = .timeout ∨ 0 ≤ t.retry.nanos)

/-- Settings that begin as the defaults are never negative.  A text can bring negative ones, and they stay so until
they are set.  The signs decide whether a pass for a token is due by its expiry, and whether a pass that is kept is
due no earlier than that. -/
theorem Reachable.paced (start : Timing) (edits : List Timing.Edit)
    (hr : Reachable (start.revise edits) s) :
    (start = {} → (start.revise edits).Nonneg) ∧
    (∀ text, Timing.read? text = some start ↔ ∃ v, Json.read? text = some v ∧ start.Records v) ∧
    (0 ≤ (start.revise edits).lead.nanos ↔ 0 ≤ start.lead.nanos ∨ ∃ d, .lead d ∈ edits) ∧
    (0 ≤ (start.revise edits).retry.nanos ↔ 0 ≤ start.retry.nanos ∨ ∃ d, .retry d ∈ edits) ∧
    ∀ f p, s.Bears f p → s.Paced (start.revise edits) f p := by
  refine ⟨?_, fun _ => Timing.read?_eq_some_iff, start.lead_revise_nonneg_iff edits,
    start.retry_revise_nonneg_iff edits, fun f p hb => ⟨hr.made hb, ?_, ?_⟩⟩
  · rintro rfl
    exact Timing.nonneg_default.revise edits
  · intro token ht
    exact Pass.renewal_le_expiry_iff ht
  · intro r renewal now reason _ _ hd
    rw [← reason.delay_nonneg_iff]
    exact Pass.le_renewal_iff hd

def hastyText : String :=
  "\x7b\"refresh_offset\":[-1,0],\"background_retry_timeout\":[30,0]\x7d"

def hasty : Timing := { lead := .ofSeconds (-1) }

/-- With these settings a token is due after it has expired. -/
theorem paced_hasty : ∃ s p, Timing.read? hastyText = some hasty ∧
    State.run? hasty {} (heldRow false) = some s ∧ s.Bears 0 p ∧ ¬ p.renewal ≤ p.expiry := by
  obtain ⟨s, p, token, h, ho, ht⟩ : ∃ s p token, State.run? hasty {} (heldRow false) = some s ∧
      s.outcome? 0 = some (.ready p) ∧ Pass.ofToken? token hasty.lead = some p :=
    ⟨_, _, .ofText "T1" ⟨600000000000⟩, rfl, rfl, rfl⟩
  have hr : Reachable (hasty.revise []) s := ⟨_, h⟩
  obtain ⟨-, -, hlead, -, hpaced⟩ := Reachable.paced hasty [] hr
  refine ⟨s, p, by decide +kernel, h, .written ho, fun hle => ?_⟩
  have hnonneg := ((hpaced 0 p (.written ho)).issued token ht).mp hle
  rcases hlead.mp hnonneg with hneg | ⟨d, hd⟩
  · exact absurd hneg (by decide)
  · cases hd

/-- Settings that are read are not always free of negative spans. -/
theorem not_always_nonneg : ¬ ∀ (text : String) (start : Timing) (edits : List Timing.Edit),
    Timing.read? text = some start → (start.revise edits).Nonneg := by
  intro hall
  have hread : Timing.read? hastyText = some hasty := by decide +kernel
  exact absurd (hall hastyText hasty [] hread).1 (by decide)

end Cache

end BearerTokens
