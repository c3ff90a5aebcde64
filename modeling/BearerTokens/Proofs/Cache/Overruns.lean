import BearerTokens.Proofs.Cache.Schedules
import BearerTokens.Proofs.Cache.Secrecy

/-! # Instants beyond the calendar

The instant of the next renewal is computed in three places, and where it would lie beyond the calendar something
breaks.  A call breaks when its token is due too early, or when it has no runtime for a renewal and the next would be
due too late.  A renewal breaks in the same two ways.  Other than that both break only when the credential breaks
them off, or when a renewal is dropped.
-/

namespace BearerTokens.Cache

variable {t : Timing} {s s' : State} {a : Action} {c : CallId} {r : RenewalId} {q : Requester}

/-! ## Rows within the calendar -/

def Action.reading? : Action → Option Instant
  | .decide _ now | .settle _ now | .answerRenewal _ _ now | .expire _ now => some now
  | _ => none

/-- Clocks read the start of 1970 or later and tokens expire later than that, both within the calendar. -/
structure Action.Dated (a : Action) : Prop where
  reading : ∀ now ∈ a.reading?, ⟨0⟩ ≤ now ∧ now ≤ .last
  expiry : ∀ token ∈ a.token?, ⟨0⟩ < token.expiry.instant ∧ token.expiry.instant ≤ .last

instance (a : Action) : Decidable a.Dated :=
  decidable_of_iff ((∀ now ∈ a.reading?, ⟨0⟩ ≤ now ∧ now ≤ .last) ∧
      ∀ token ∈ a.token?, ⟨0⟩ < token.expiry.instant ∧ token.expiry.instant ≤ .last)
    ⟨fun h => ⟨h.1, h.2⟩, fun h => ⟨h.reading, h.expiry⟩⟩

theorem Action.Dated.renews_early_iff (hd : a.Dated) {token : Token} (ha : a.token? = some token)
    (ht : 0 ≤ t.lead.nanos) : Pass.ofToken? token t.lead = none ↔
      token.expiry.instant.nanos - t.lead.nanos < Instant.first.nanos := by
  rw [Pass.ofToken?, Option.map_eq_none_iff]
  exact Instant.before?_eq_none_iff_lt_first (hd.expiry token ha).2 ht

theorem Action.Dated.renews_late_iff (hd : a.Dated) {now : Instant} (ha : a.reading? = some now)
    (ht : 0 ≤ t.retry.nanos) (p : Pass) :
    p.deferred? now t.retry = none ↔ Instant.last.nanos < now.nanos + t.retry.nanos := by
  have hfirst : Instant.first ≤ now := Int.le_trans (by decide) (hd.reading now ha).1
  rw [Pass.deferred?, Option.map_eq_none_iff]
  exact Instant.after?_eq_none_iff_last_lt hfirst ht

/-- A renewal that reaches its limit can always keep its pass. -/
theorem Action.Dated.renews_at_once (hd : a.Dated) {now : Instant} (ha : a.reading? = some now)
    (p : Pass) : p.deferred? now .zero ≠ none := by
  obtain ⟨hfirst, hlast⟩ := hd.reading now ha
  have hnow : now.Representable := ⟨Int.le_trans (by decide) hfirst, hlast⟩
  simp [Pass.deferred?, Instant.after?_zero hnow]

/-! ## What breaks -/

def Call.Point.exit? : Call.Point → Option Exit
  | .closing _ _ exit | .settling _ exit | .done exit => some exit
  | _ => none

def State.Broken (s : State) : Requester → Prop
  | .call c => ∃ call, s.calls[c]? = some call ∧ call.point.exit? = some .crashed
  | .renewal r => s.EndsAs r .abandoned

inductive Action.BreaksOff : Action → Requester → Prop where
  | crash {c : CallId} : BreaksOff (.crash c) (.call c)
  | abandon {r : RenewalId} : BreaksOff (.abandon r) (.renewal r)

/-- An instant that the action computes for a call or a renewal lies beyond the calendar. -/
inductive State.Overruns (t : Timing) (s : State) : Action → Requester → Prop where
  | acquired {c : CallId} {token : Token}
      (h : token.expiry.instant.nanos - t.lead.nanos < Instant.first.nanos) :
      Overruns t s (.answer c (.ok token)) (.call c)
  | renewed {r : RenewalId} {token : Token} {now : Instant}
      (h : token.expiry.instant.nanos - t.lead.nanos < Instant.first.nanos) :
      Overruns t s (.answerRenewal r (.ok token) now) (.renewal r)
  | refused {r : RenewalId} {fault : CredentialFault} {now : Instant}
      (h : Instant.last.nanos < now.nanos + t.retry.nanos) :
      Overruns t s (.answerRenewal r (.error fault) now) (.renewal r)
  /-- Without a runtime the renewal and the call that starts it break together. -/
  | unhosted {c : CallId} {now : Instant} {q : Requester}
      (hq : q = .call c ∨ q = .renewal s.renewals.length)
      (h : Instant.last.nanos < now.nanos + t.retry.nanos) :
      Overruns t s (.settle c now) q

/-! ## One action -/

/-- What breaks stays broken. -/
theorem State.Broken.step (hb : s.Broken q) (hm : State.Moves t s a s') : s'.Broken q := by
  cases q with
  | renewal r => exact EndsAs.step hb hm
  | call c =>
    obtain ⟨before, hc, hexit⟩ := hb
    obtain ⟨call, hc', -⟩ := hm.extends.call c before hc
    refine ⟨call, hc', ?_⟩
    cases hm.callFrom hc' with
    | same hi | flagged hi => cases hc.symm.trans hi; exact hexit
    | added => simp at hc
    | decided hi hp | launched hi hp =>
      cases hc.symm.trans hi
      rw [hp] at hexit
      cases hexit
    | closed hi hp =>
      cases hc.symm.trans hi
      rw [hp] at hexit
      exact hexit
    | walked hi hw =>
      cases hc.symm.trans hi
      cases hw with
      | finish hp =>
        rw [hp] at hexit
        exact hexit
      | withdraw _ hp => rcases hp with hp | hp <;> (rw [hp] at hexit; cases hexit)
      | dropIdle _ hp => rcases hp with hp | ⟨f, hp⟩ <;> (rw [hp] at hexit; cases hexit)
      | enter hp | ask hp | answered hp | unfit hp | refused hp | crash hp | withdrawEarly _ _ hp
      | withdrawWaiting _ hp | again hp | share hp | drop _ hp =>
        rw [hp] at hexit
        cases hexit

namespace State.Moves

/-- A call that breaks does so by this action, or has broken before. -/
theorem broken_call (hm : State.Moves t s a s') (hd : a.Dated) (ht : t.Nonneg)
    (hb : s'.Broken (.call c)) :
    s.Broken (.call c) ∨ a.BreaksOff (.call c) ∨ s.Overruns t a (.call c) := by
  obtain ⟨call, hc, hexit⟩ := hb
  cases hm.callFrom hc with
  | same hi | flagged hi => exact .inl ⟨_, hi, hexit⟩
  | added hp => rcases hp with rfl | ⟨fault, rfl⟩ <;> cases hexit
  | @decided _ _ _ d => cases d <;> cases hexit
  | closed hi hp => exact .inl ⟨_, hi, by rw [hp]; exact hexit⟩
  | walked hi hw =>
    cases hw with
    | unfit _ hearly => exact .inr (.inr (.acquired ((hd.renews_early_iff rfl ht.1).mp hearly)))
    | crash => exact .inr (.inl .crash)
    | finish hp => exact .inl ⟨_, hi, by rw [hp]; exact hexit⟩
    | _ => cases hexit
  | @launched _ _ _ _ pass _ _ _ _ _ _ _ hr hstart =>
    subst hr
    cases hstart with
    | hosted => cases hexit
    | @alone now _ _ _ _ he =>
      subst he
      cases hlate : pass.deferred? now t.retry with
      | some kept => simp [hlate, Call.Point.exit?] at hexit
      | none => exact .inr (.inr (.unhosted (.inl rfl) ((hd.renews_late_iff rfl ht.2 pass).mp hlate)))

theorem broken_renewal (hm : State.Moves t s a s') (hd : a.Dated) (ht : t.Nonneg)
    (hb : s'.Broken (.renewal r)) :
    s.Broken (.renewal r) ∨ a.BreaksOff (.renewal r) ∨ s.Overruns t a (.renewal r) := by
  obtain ⟨renewal, h, he⟩ := hb
  cases hm.renewalFrom h with
  | same hi => exact .inl ⟨_, hi, he⟩
  | closed hi hp | counted hi hp => exact .inl ⟨_, hi, by rw [hp]; exact he⟩
  | started _ _ _ hstart =>
    cases hstart with
    | hosted => cases he
    | alone hk =>
      cases hk with
      | kept => cases he
      | lost hlate => exact .inr (.inr (.unhosted (.inr rfl) ((hd.renews_late_iff rfl ht.2 _).mp hlate)))
  | walked _ hw =>
    cases hw with
    | unfit _ hearly => exact .inr (.inr (.renewed ((hd.renews_early_iff rfl ht.1).mp hearly)))
    | abandon => exact .inr (.inl .abandon)
    | refused _ hk =>
      cases hk with
      | kept => cases he
      | lost hlate => exact .inr (.inr (.refused ((hd.renews_late_iff rfl ht.2 _).mp hlate)))
    | expire _ hk =>
      cases hk with
      | kept => cases he
      | lost hlate => exact absurd hlate (hd.renews_at_once rfl _)
    | begin | ask | answered => cases he

theorem broken_of_breaksOff (hm : State.Moves t s a s') (hb : a.BreaksOff q) : s'.Broken q := by
  cases hb with
  | crash =>
    cases hm with
    | walkRenewal _ hw => cases hw
    | launch _ _ _ hs => cases hs
    | walk hc hw =>
      cases hw with
      | crash => exact ⟨_, moveCall_self (by exact hc), rfl⟩
  | abandon =>
    cases hm with
    | walk _ hw => cases hw
    | launch _ _ _ hs => cases hs
    | walkRenewal h hw =>
      cases hw with
      | abandon => exact ⟨_, moveRenewal_self (by exact h), rfl⟩

theorem broken_of_overruns (hm : State.Moves t s a s') (hd : a.Dated) (ht : t.Nonneg)
    (ho : s.Overruns t a q) : s'.Broken q := by
  cases ho with
  | acquired h =>
    have hearly := (hd.renews_early_iff rfl ht.1).mpr h
    cases hm with
    | walkRenewal _ hw => cases hw
    | launch _ _ _ hs => cases hs
    | walk hc hw =>
      cases hw with
      | answered _ hfit => cases hearly.symm.trans hfit
      | unfit => exact ⟨_, moveCall_self (by exact hc), rfl⟩
  | renewed h =>
    have hearly := (hd.renews_early_iff rfl ht.1).mpr h
    cases hm with
    | walk _ hw => cases hw
    | launch _ _ _ hs => cases hs
    | walkRenewal hi hw =>
      cases hw with
      | answered _ hfit => cases hearly.symm.trans hfit
      | unfit => exact ⟨_, moveRenewal_self (by exact hi), rfl⟩
  | refused h =>
    cases hm with
    | walk _ hw => cases hw
    | launch _ _ _ hs => cases hs
    | walkRenewal hi hw =>
      cases hw with
      | refused _ hk =>
        cases hk with
        | kept hkept => cases ((hd.renews_late_iff rfl ht.2 _).mpr h).symm.trans hkept
        | lost => exact ⟨_, moveRenewal_self (by exact hi), rfl⟩
  | unhosted hq h =>
    obtain ⟨_, renewal, _, _, _, hk, he, hnew, hcall, -⟩ := hm.settled
    have hlate := (hd.renews_late_iff rfl ht.2 renewal.previous).mpr h
    rcases hq with rfl | rfl
    · exact ⟨_, hcall, by rw [he]; simp [hlate, Call.Point.exit?]⟩
    · cases hk with
      | kept hkept => cases hlate.symm.trans hkept
      | lost => exact ⟨_, hnew, rfl⟩

theorem broken_iff (hm : State.Moves t s a s') (hd : a.Dated) (ht : t.Nonneg) :
    s'.Broken q ↔ s.Broken q ∨ a.BreaksOff q ∨ s.Overruns t a q := by
  constructor
  · intro hb
    cases q with
    | call c => exact hm.broken_call hd ht hb
    | renewal r => exact hm.broken_renewal hd ht hb
  · rintro (hb | hb | ho)
    · exact hb.step hm
    · exact hm.broken_of_breaksOff hb
    · exact hm.broken_of_overruns hd ht ho

end State.Moves

/-! ## Rows of actions -/

def State.BreaksIn (t : Timing) (actions : List Action) (q : Requester) : Prop :=
  ∃ before a after x, actions = before ++ a :: after ∧ State.run? t {} before = some x ∧
    (a.BreaksOff q ∨ x.Overruns t a q)

theorem State.breaksIn_concat {actions : List Action} (h : State.run? t {} actions = some s) :
    BreaksIn t (actions ++ [a]) q ↔ BreaksIn t actions q ∨ a.BreaksOff q ∨ s.Overruns t a q := by
  constructor
  · rintro ⟨before, b, after, x, he, hx, hb⟩
    rcases List.eq_nil_or_concat after with rfl | ⟨after, z, rfl⟩
    · obtain ⟨rfl, hlast⟩ := List.append_inj' he rfl
      cases hlast
      cases h.symm.trans hx
      exact .inr hb
    · rw [List.concat_eq_append, ← List.cons_append, ← List.append_assoc] at he
      exact .inl ⟨before, b, after, x, (List.append_inj' he rfl).1, hx, hb⟩
  · rintro (⟨before, b, after, x, rfl, hx, hb⟩ | hb)
    · exact ⟨before, b, after ++ [a], x, by simp, hx, hb⟩
    · exact ⟨actions, a, [], s, rfl, h, hb⟩

theorem State.run_broken_iff (ht : t.Nonneg) {actions : List Action}
    (hd : ∀ a ∈ actions, a.Dated) (h : State.run? t {} actions = some s) (q : Requester) :
    s.Broken q ↔ BreaksIn t actions q := by
  refine run_induction_on (P := fun before x => x.Broken q ↔ BreaksIn t before q) h ?_
    fun before a x y ha hx hstep _ ih => ?_
  · refine iff_of_false ?_ (by rintro ⟨before, a, after, x, he, -⟩; simp at he)
    cases q with
    | call => rintro ⟨call, hc, -⟩; simp at hc
    | renewal => rintro ⟨renewal, hi, -⟩; simp at hi
  · rw [(step_moves hstep).broken_iff (hd a ha) ht, ih, breaksIn_concat hx]

/-- The instant of the next renewal is computed only within the calendar. -/
theorem Reachable.renewal_representable (hr : Reachable t s) {f : FlightId} {p : Pass}
    (hb : s.Bears f p) : p.renewal.Representable := by
  cases hr.made hb with
  | issued _ hfit =>
    obtain ⟨due, hdue, rfl⟩ := Option.map_eq_some_iff.mp hfit
    exact (Instant.before?_eq_some_iff.mp hdue).2
  | kept _ _ _ hkept =>
    obtain ⟨due, hdue, rfl⟩ := Option.map_eq_some_iff.mp hkept
    exact (Instant.after?_eq_some_iff.mp hdue).2

structure WithinCalendar (t : Timing) (actions : List Action) : Prop where
  lead : t.lead.nanos ≤ -Instant.first.nanos
  retry : ∀ a ∈ actions, ∀ now ∈ a.reading?, now.nanos + t.retry.nanos ≤ Instant.last.nanos

theorem State.Overruns.not_withinCalendar {actions : List Action} (ho : s.Overruns t a q) (hd : a.Dated)
    (ha : a ∈ actions) : ¬ WithinCalendar t actions := by
  intro hm
  have hlead : ∀ token, a.token? = some token →
      ¬ token.expiry.instant.nanos - t.lead.nanos < Instant.first.nanos := by
    intro token htoken
    have hpos : 0 < token.expiry.instant.nanos := (hd.expiry token htoken).1
    have hle := hm.lead
    omega
  have hretry : ∀ now, a.reading? = some now →
      ¬ Instant.last.nanos < now.nanos + t.retry.nanos :=
    fun now hnow => Int.not_lt.mpr (hm.retry a ha now hnow)
  cases ho with
  | acquired h | renewed h => exact hlead _ rfl h
  | refused h | unhosted _ h => exact hretry _ rfl h

/-- In a cache whose settings were set in any way, a call or a renewal breaks exactly when the credential breaks it off,
when the renewal is dropped, or when an instant that is computed for it lies beyond the calendar.  Every instant that a
pass gets is within the calendar.  When neither setting leads beyond it, nothing breaks by itself. -/
theorem State.broken_iff_breaksIn (edits : List Timing.Edit) {actions : List Action}
    (hd : ∀ a ∈ actions, a.Dated) (h : State.run? (Timing.revise {} edits) {} actions = some s) :
    (∀ q, s.Broken q ↔ BreaksIn (Timing.revise {} edits) actions q) ∧
    (∀ f p, s.Bears f p → p.renewal.Representable) ∧
    (WithinCalendar (Timing.revise {} edits) actions →
      ∀ q, s.Broken q → ∃ a ∈ actions, a.BreaksOff q) := by
  have hbroken := State.run_broken_iff (Timing.nonneg_default.revise edits) hd h
  refine ⟨hbroken, fun f p hb => Reachable.renewal_representable ⟨_, h⟩ hb, fun hwithin q hb => ?_⟩
  obtain ⟨before, a, after, x, rfl, -, hbreaks⟩ := (hbroken q).mp hb
  have ha : a ∈ before ++ a :: after := by simp
  rcases hbreaks with hoff | hover
  · exact ⟨a, ha, hoff⟩
  · exact absurd hwithin (hover.not_withinCalendar (hd a ha) ha)

def unbounded : Duration := ⟨9223372036854775807000000⟩

/-- Without a runtime a call settles the renewal that it starts, and both break. -/
theorem broken_iff_breaksIn_overdueRow : ∃ s,
    State.run? (Timing.revise {} [.retry unbounded]) {}
      (overdueRow ++ [.decide 1 ⟨400000000000⟩, .settle 1 ⟨400000000000⟩]) = some s ∧
    s.Broken (.call 1) ∧ s.Broken (.renewal 0) := by
  obtain ⟨x, s, hx, h, hr⟩ : ∃ x s, State.run? (Timing.revise {} [.retry unbounded]) {}
      (overdueRow ++ [.decide 1 ⟨400000000000⟩]) = some x ∧
      State.run? (Timing.revise {} [.retry unbounded]) {}
        (overdueRow ++ [.decide 1 ⟨400000000000⟩, .settle 1 ⟨400000000000⟩]) = some s ∧
      x.renewals = [] := ⟨_, _, rfl, rfl, rfl⟩
  obtain ⟨hbroken, -⟩ := State.broken_iff_breaksIn [.retry unbounded] (by decide) h
  have hbreaks : ∀ q, q = .call 1 ∨ q = .renewal x.renewals.length →
      x.Overruns (Timing.revise {} [.retry unbounded]) (.settle 1 ⟨400000000000⟩) q :=
    fun q hq => .unhosted hq (by decide)
  refine ⟨s, h, (hbroken _).mpr ⟨_, _, [], x, rfl, hx, .inr (hbreaks _ (.inl rfl))⟩,
    (hbroken _).mpr ⟨_, _, [], x, rfl, hx, .inr (hbreaks _ (.inr ?_))⟩⟩
  rw [hr]
  rfl

/-- A call does not break only when the credential breaks it off. -/
theorem not_always_representable : ¬ ∀ (edits : List Timing.Edit) (actions : List Action) (s : State)
    (q : Requester), (∀ a ∈ actions, a.Dated) →
    State.run? (Timing.revise {} edits) {} actions = some s → s.Broken q →
      ∃ a ∈ actions, a.BreaksOff q := by
  intro hall
  obtain ⟨s, call, h, hc, hp⟩ : ∃ s call,
      State.run? (Timing.revise {} [.lead unbounded]) {} (heldRow false) = some s ∧ s.calls[0]? = some call ∧
        call.point = .done .crashed := ⟨_, _, rfl, rfl, rfl⟩
  obtain ⟨a, ha, hb⟩ := hall [.lead unbounded] (heldRow false) s (.call 0) (by decide) h
    ⟨call, hc, by rw [hp]; rfl⟩
  cases hb
  simp [heldRow] at ha

end BearerTokens.Cache
