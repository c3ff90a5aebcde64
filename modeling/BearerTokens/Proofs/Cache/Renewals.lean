import BearerTokens.Proofs.Cache.Held

/-! # What renewals bring

A renewal brings a fresh pass, a copy of the pass that it is to replace, or nothing.  The flight of a
renewal gets its outcome from one of the renewals on it, so it never fails as a call's flight may.
-/

namespace BearerTokens.Cache

inductive Renewal.Brings (t : Timing) (s : State) (r : RenewalId) (previous : Pass) :
    Outcome → Ending → Prop where
  | fresh {token : Token} {pass : Pass} (ht : Pass.ofToken? token t.lead = some pass)
      (hl : Happening.answered (.renewal r) (.ok token) ∈ s.history) :
      Brings t s r previous (.ready pass) .succeeded
  | copy {pass : Pass} (hh : pass.header = previous.header) (he : pass.expiry = previous.expiry) :
      Brings t s r previous (.ready pass) .fellBack
  | nothing : Brings t s r previous .cancelled .abandoned

variable {t : Timing} {s s' : State} {r : RenewalId} {renewal : Renewal}

theorem Renewal.Brings.mono {previous : Pass} {o : Outcome} {ending : Ending}
    (hb : Renewal.Brings t s r previous o ending) (he : Extends s s') :
    Renewal.Brings t s' r previous o ending := by
  cases hb with
  | fresh ht hl => exact .fresh ht (he.history.subset hl)
  | copy hh hexp => exact .copy hh hexp
  | nothing => exact .nothing

theorem Renewal.Keeps.brings {now : Instant} {delay : Duration} {reason : Reason} {error : String}
    {p : Point} {lines : List Happening} (hk : renewal.Keeps r now delay reason error p lines)
    {o : Outcome} {ending : Ending} (hp : p = .closing o ending) :
    Brings t s r renewal.previous o ending := by
  cases hk with
  | kept hd =>
    cases hp
    obtain ⟨hheader, hexpiry⟩ := Pass.deferred?_eq hd
    exact .copy hheader hexpiry
  | lost =>
    cases hp
    exact .nothing

theorem Renewal.Walks.brings {a : Action} {p : Point} {lines : List Happening}
    (hw : renewal.Walks t r a p lines) (hh : s'.history = s.history ++ lines) {o : Outcome}
    {ending : Ending} (hp : p = .closing o ending) :
    Brings t s' r renewal.previous o ending := by
  cases hw with
  | answered _ ht =>
    cases hp
    exact .fresh ht (by simp [hh])
  | unfit | abandon =>
    cases hp
    exact .nothing
  | refused _ hk => exact hk.brings hp
  | expire _ hk => exact hk.brings hp
  | begin | ask => cases hp

/-- What a renewal is about to write is what it brings. -/
theorem Reachable.closing_brings (hr : Reachable t s) (h : s.renewals[r]? = some renewal)
    {o : Outcome} {ending : Ending} (hp : renewal.point = .closing o ending) :
    Renewal.Brings t s r renewal.previous o ending := by
  refine hr.induct (P := fun x => ∀ renewal : Renewal, x.renewals[r]? = some renewal →
    renewal.point = .closing o ending → Renewal.Brings t x r renewal.previous o ending) (by simp)
    (fun a x y _ hm ih => ?_) renewal h hp
  intro renewal h hp
  cases hm.renewalFrom h with
  | same hi => exact (ih renewal hi hp).mono hm.extends
  | started _ _ _ hs =>
    cases hs with
    | hosted => cases hp
    | alone hk => exact hk.brings hp
  | walked hi hw hh => exact hw.brings hh hp
  | closed => cases hp
  | counted => cases hp

/-- The outcome of a renewal's flight is what some renewal on it brought. -/
theorem Reachable.background_brings (hr : Reachable t s) {f : FlightId} {o : Outcome}
    (hm : s.mode? f = some .background) (ho : s.outcome? f = some o) :
    ∃ r renewal ending, s.renewals[r]? = some renewal ∧ renewal.flight = f ∧
      Renewal.Brings t s r renewal.previous o ending := by
  have hall : ∀ flight : Flight, s.flights[f]? = some flight → flight.mode = .background →
      flight.outcome = some o → ∃ r renewal ending, s.renewals[r]? = some renewal ∧
        renewal.flight = f ∧ Renewal.Brings t s r renewal.previous o ending := by
    refine hr.induct (P := fun x => ∀ flight : Flight, x.flights[f]? = some flight →
      flight.mode = .background → flight.outcome = some o → ∃ r renewal ending,
        x.renewals[r]? = some renewal ∧ renewal.flight = f ∧
          Renewal.Brings t x r renewal.previous o ending) (by simp) (fun a x y hx hm ih => ?_)
    intro flight hf hmode ho
    have he := hm.extends
    have hold : ∀ before : Flight, x.flights[f]? = some before → before.mode = .background →
        before.outcome = some o → ∃ r renewal ending, y.renewals[r]? = some renewal ∧
          renewal.flight = f ∧ Renewal.Brings t y r renewal.previous o ending := by
      intro before hb hmode ho
      obtain ⟨r, renewal, ending, h, rfl, hbrings⟩ := ih before hb hmode ho
      obtain ⟨p, hp⟩ := he.renewal r renewal h
      exact ⟨r, _, ending, hp, rfl, hbrings.mono he⟩
    cases hm.flightFrom hf with
    | same hi => exact hold flight hi hmode ho
    | opened => cases ho
    | @closed c call _ written exit before hc hp hb =>
      -- a call writes a flight that it has opened itself
      cases (hx.matched.closing hc hp hb).1.symm.trans hmode
    | @filled r renewal written ending before hi hp hb =>
      obtain ⟨p, hp'⟩ := he.renewal r renewal hi
      cases hbo : before.outcome with
      | some o' =>
        rw [Flight.outcome_write_of_some hbo] at ho
        exact hold before hb hmode (hbo.trans ho)
      | none =>
        rw [Flight.outcome_write_of_none hbo] at ho
        cases ho
        exact ⟨r, _, ending, hp', rfl, (hx.closing_brings hi hp).mono he⟩
  obtain ⟨flight, hf, hmode⟩ := Option.map_eq_some_iff.mp hm
  exact hall flight hf hmode (by simpa [State.outcome?, hf] using ho)

/-! ## Renewals that have ended -/

def Renewal.Point.ending? : Renewal.Point → Option Ending
  | .closing _ ending | .written ending | .settled ending => some ending
  | _ => none

def State.EndsAs (s : State) (r : RenewalId) (ending : Ending) : Prop :=
  ∃ renewal, s.renewals[r]? = some renewal ∧ renewal.point.ending? = some ending

theorem State.EndsAs.step {a : Action} {ending : Ending} (h : s.EndsAs r ending)
    (hm : State.Moves t s a s') : s'.EndsAs r ending := by
  obtain ⟨renewal, hr, he⟩ := h
  obtain ⟨after, hafter⟩ : ∃ after, s'.renewals[r]? = some after := by
    obtain ⟨p, hp⟩ := hm.extends.renewal r renewal hr
    exact ⟨_, hp⟩
  refine ⟨after, hafter, ?_⟩
  cases hm.renewalFrom hafter with
  | same hi => cases hr.symm.trans hi; exact he
  | started => simp at hr
  | walked hi hw =>
    cases hr.symm.trans hi
    cases hw with
    | begin hq | ask hq | answered hq | unfit hq | refused hq | expire hq =>
      rw [hq] at he
      cases he
    | abandon hq => rcases hq with hq | hq <;> (rw [hq] at he; cases he)
  | closed hi hq | counted hi hq =>
    cases hr.symm.trans hi
    rw [hq] at he
    exact he

theorem State.EndsAs.congr {ending ending' : Ending} (h : s.EndsAs r ending)
    (h' : s.EndsAs r ending') : ending = ending' := by
  obtain ⟨renewal, hr, he⟩ := h
  obtain ⟨renewal', hr', he'⟩ := h'
  cases hr.symm.trans hr'
  exact Option.some.inj (he.symm.trans he')

/-! ## Renewals that a call settles itself -/

def Renewal.Point.Ended : Renewal.Point → Prop
  | .closing _ _ | .written _ | .settled _ => True
  | _ => False

theorem Renewal.Point.ended_iff {p : Renewal.Point} :
    p.Ended ↔ ∃ ending, p.ending? = some ending := by
  cases p <;> simp [Ended, ending?]

theorem Renewal.Keeps.ended {now : Instant} {delay : Duration} {reason : Reason} {error : String}
    {p : Point} {lines : List Happening} (hk : renewal.Keeps r now delay reason error p lines) :
    p.Ended := by cases hk <;> trivial

theorem State.Moves.ended {a : Action} (hm : State.Moves t s a s')
    (h : s.renewals[r]? = some renewal) (he : renewal.point.Ended) :
    ∃ after, s'.renewals[r]? = some after ∧ after.point.Ended := by
  obtain ⟨ending, he⟩ := Renewal.Point.ended_iff.mp he
  have hends : s.EndsAs r ending := ⟨renewal, h, he⟩
  obtain ⟨after, hafter, he'⟩ := hends.step hm
  exact ⟨after, hafter, Renewal.Point.ended_iff.mpr ⟨ending, he'⟩⟩

/-- A call that settles a renewal itself has one that has nothing to wait for. -/
theorem Reachable.settling_ended (hr : Reachable t s) {c : CallId} {call : Call} {exit : Exit}
    (hc : s.calls[c]? = some call) (hp : call.point = .settling r exit) :
    ∃ renewal, s.renewals[r]? = some renewal ∧ renewal.point.Ended := by
  refine hr.induct (P := fun x => ∀ call : Call, x.calls[c]? = some call →
    call.point = .settling r exit → ∃ renewal, x.renewals[r]? = some renewal ∧ renewal.point.Ended)
    (by simp) (fun a x y _ hm ih => ?_) call hc hp
  intro call hc hp
  have hkeep : (∃ renewal, x.renewals[r]? = some renewal ∧ renewal.point.Ended) →
      ∃ renewal, y.renewals[r]? = some renewal ∧ renewal.point.Ended := by
    rintro ⟨renewal, h, he⟩
    exact hm.ended h he
  cases hm.callFrom hc with
  | same hi => exact hkeep (ih call hi hp)
  | added hq => rcases hq with rfl | ⟨fault, rfl⟩ <;> cases hp
  | @flagged _ before hi => exact hkeep (ih before hi hp)
  | @decided _ _ _ d => cases d <;> cases hp
  | walked _ hw => cases hw <;> cases hp
  | closed => cases hp
  | launched hi hq hrenewal hs hy =>
    cases hs with
    | hosted => cases hp
    | alone hk =>
      cases hp
      exact ⟨_, hy, hk.ended⟩

end BearerTokens.Cache
