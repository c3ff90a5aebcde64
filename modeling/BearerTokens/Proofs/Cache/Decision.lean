import BearerTokens.Cache.Holding

/-! # What a call can be told

A decision first settles the renewal on standby: it is kept, promoted or forgotten.  Then one of five
things follows, and each says which flight was looked at and what was found there.  Later proofs use
these two relations and never unfold the decision itself.
-/

namespace BearerTokens

theorem Pass.expiredAt_iff {p : Pass} {now : Instant} : p.expiredAt now = true ↔ p.expiry ≤ now := by
  simp [Pass.expiredAt]

theorem Pass.expiredAt_eq_false_iff {p : Pass} {now : Instant} :
    p.expiredAt now = false ↔ now < p.expiry := by
  rw [← Bool.not_eq_true, Pass.expiredAt_iff, Instant.not_le]

/-- A deferred pass has the header and the expiry of the old one. -/
theorem Pass.deferred?_eq {p q : Pass} {now : Instant} {delay : Duration}
    (h : p.deferred? now delay = some q) : q.header = p.header ∧ q.expiry = p.expiry := by
  obtain ⟨i, -, rfl⟩ := Option.map_eq_some_iff.mp h
  exact ⟨rfl, rfl⟩

theorem Pass.ofToken?_eq {token : Token} {lead : Duration} {p : Pass}
    (h : Pass.ofToken? token lead = some p) :
    p.header = "Bearer " ++ token.secret.value ∧ p.expiry = token.expiry.instant := by
  obtain ⟨i, -, rfl⟩ := Option.map_eq_some_iff.mp h
  exact ⟨rfl, rfl⟩

namespace Cache.Holding

inductive Promotes (outcome? : FlightId → Option Outcome) (now : Instant) (h : Holding) :
    Holding → Prop where
  /-- There is none, or it has brought nothing that is good now. -/
  | kept (hk : ∀ f o, h.standby = some f → outcome? f = some o →
      o ≠ .cancelled ∧ ∀ pass, o = .ready pass → pass.expiredAt now = true) : Promotes outcome? now h h
  | promoted {f : FlightId} {pass : Pass} (hs : h.standby = some f)
      (ho : outcome? f = some (.ready pass)) (he : pass.expiredAt now = false) :
      Promotes outcome? now h { h with current := some f, standby := none }
  | forgotten {f : FlightId} (hs : h.standby = some f) (ho : outcome? f = some .cancelled) :
      Promotes outcome? now h { h with standby := none }

inductive Decides (outcome? : FlightId → Option Outcome) (next : FlightId) (context : Context)
    (now : Instant) (h : Holding) : Holding → Decision → Prop where
  /-- Nothing is held for a context that the call could share. -/
  | anew (hn : ∀ stored f, h.context = some stored → h.current = some f → ¬ stored.Equivalent context) :
      Decides outcome? next context now h { h.restart next with context := some context }
        (.acquire next)
  | wait {stored : Context} {f : FlightId} (hc : h.context = some stored)
      (he : stored.Equivalent context) (hf : h.current = some f) (ho : outcome? f = none) :
      Decides outcome? next context now h h (.wait f)
  /-- The current flight has ended without a pass, or its pass has expired. -/
  | lapsed {stored : Context} {f : FlightId} {o : Outcome} {m : Holding}
      (hc : h.context = some stored) (he : stored.Equivalent context) (hf : h.current = some f)
      (ho : outcome? f = some o) (hm : Promotes outcome? now h m)
      (hu : m.usable outcome? now = none) :
      Decides outcome? next context now h (m.restart next) (.acquire next)
  | renew {stored : Context} {f source : FlightId} {o : Outcome} {pass : Pass} {m : Holding}
      (hc : h.context = some stored) (he : stored.Equivalent context) (hf : h.current = some f)
      (ho : outcome? f = some o) (hm : Promotes outcome? now h m)
      (hu : m.usable outcome? now = some (source, pass)) (hd : pass.dueAt now = true)
      (hs : m.standby = none) :
      Decides outcome? next context now h { m with standby := some next } (.renew next source pass)
  | serve {stored : Context} {f source : FlightId} {o : Outcome} {pass : Pass} {m : Holding}
      (hc : h.context = some stored) (he : stored.Equivalent context) (hf : h.current = some f)
      (ho : outcome? f = some o) (hm : Promotes outcome? now h m)
      (hu : m.usable outcome? now = some (source, pass))
      (hd : pass.dueAt now = true → m.standby ≠ none) :
      Decides outcome? next context now h m (.serve source pass)

variable {outcome? : FlightId → Option Outcome} {next : FlightId} {context : Context}
  {now : Instant} {h h' : Holding} {d : Decision}

theorem promote_promotes : Promotes outcome? now h (h.promote outcome? now) := by
  unfold promote
  split
  next pass hs =>
    obtain ⟨f, hf, ho⟩ := Option.bind_eq_some_iff.mp hs
    split
    next he =>
      refine .kept fun g o hg hgo => ?_
      cases hf.symm.trans hg
      cases ho.symm.trans hgo
      exact ⟨nofun, fun p hp => by cases hp; exact he⟩
    next he => simpa [hf] using Promotes.promoted hf ho (by simpa using he)
  next hs =>
    obtain ⟨f, hf, ho⟩ := Option.bind_eq_some_iff.mp hs
    exact .forgotten hf ho
  next hr hc =>
    refine .kept fun f o hf ho => ?_
    have hb : h.standby.bind outcome? = some o := by simp [hf, ho]
    exact ⟨fun he => hc (he ▸ hb), fun pass he => (hr pass (he ▸ hb)).elim⟩

theorem Promotes.context_eq {m : Holding} (hm : Promotes outcome? now h m) :
    m.context = h.context := by cases hm <;> rfl

/-- The current flight is the old one, or the one that was on standby. -/
theorem Promotes.current_from {m : Holding} {f : FlightId} (hm : Promotes outcome? now h m)
    (hf : m.current = some f) :
    h.current = some f ∧ (m.standby = h.standby ∨ m.standby = none) ∨
      h.standby = some f ∧ m.standby = none := by
  cases hm with
  | kept => exact .inl ⟨hf, .inl rfl⟩
  | promoted hs => exact .inr ⟨hs.trans hf, rfl⟩
  | forgotten => exact .inl ⟨hf, .inr rfl⟩

theorem usable_eq_some {source : FlightId} {pass : Pass} :
    h.usable outcome? now = some (source, pass) ↔
      h.current = some source ∧ outcome? source = some (.ready pass) ∧ pass.expiredAt now = false := by
  unfold usable
  constructor
  · intro hu
    cases hc : h.current with
    | none => simp [hc] at hu
    | some f =>
      simp only [hc] at hu
      split at hu
      next p hp =>
        split at hu
        next => cases hu
        next he => cases hu; exact ⟨rfl, hp, by simpa using he⟩
      next => cases hu
  · rintro ⟨hc, ho, he⟩
    simp [hc, ho, he]

/-- Every decision is one of the five. -/
theorem decide_decides (hd : h.decide outcome? next context now = (h', d)) :
    Decides outcome? next context now h h' d := by
  unfold decide at hd
  split at hd
  next stored f hc hf =>
    split at hd
    next he =>
      split at hd
      next ho => cases hd; exact .wait hc he hf ho
      next o ho =>
        simp only [decideSettled] at hd
        have hm : Promotes outcome? now h (h.promote outcome? now) := promote_promotes
        cases hu : (h.promote outcome? now).usable outcome? now with
        | none => simp only [hu] at hd; cases hd; exact .lapsed hc he hf ho hm hu
        | some found =>
          obtain ⟨source, pass⟩ := found
          simp only [hu] at hd
          split at hd
          next hq =>
            cases hd
            simp only [Bool.and_eq_true, Option.isNone_iff_eq_none] at hq
            exact .renew hc he hf ho hm hu hq.1 hq.2
          next hq =>
            cases hd
            refine .serve hc he hf ho hm hu fun hdue hs => hq ?_
            simp [hdue, hs]
    next he =>
      cases hd
      refine .anew fun s g hs hg => ?_
      obtain rfl : stored = s := by simpa [hc] using hs
      exact he
  next hn => cases hd; exact .anew fun s f hs hf => (hn s f hs hf).elim

/-- A call that could share an open flight waits on it. -/
theorem Decides.waits {stored : Context} {f : FlightId}
    (hd : Decides outcome? next context now h h' d) (hc : h.context = some stored)
    (he : stored.Equivalent context) (hf : h.current = some f) (ho : outcome? f = none) :
    h' = h ∧ d = .wait f := by
  cases hd with
  | anew hn => exact absurd he (hn stored f hc hf)
  | wait _ _ hg => cases hf.symm.trans hg; exact ⟨rfl, rfl⟩
  | lapsed _ _ hg hgo | renew _ _ hg hgo | serve _ _ hg hgo =>
    cases hf.symm.trans hg
    rw [ho] at hgo
    cases hgo

/-- A decision opens at most the next flight. -/
theorem Decides.opens (hd : Decides outcome? next context now h h' d) {f : FlightId}
    (hf : d = .acquire f ∨ ∃ source pass, d = .renew f source pass) : f = next := by
  cases hd <;> simp_all

end Cache.Holding

end BearerTokens
