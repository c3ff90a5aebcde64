import BearerTokens.Proofs.Cache.Edits
import BearerTokens.Proofs.Cache.Promptness
import Mathlib.Data.List.Basic

/-! # Calls that are cancelled before they begin

A call that blocks looks for its cancellation before it decides, so if its caller has asked to cancel
beforehand, all others go on as if it had never been made.  An async call looks for it only where it
is suspended: it decides first, and what the cache holds stays as it was exactly when the call is told
to wait, or is served while nothing on standby has to be promoted or forgotten.
-/

namespace BearerTokens.Cache

namespace State

variable {t : Timing} {s s' x y : State} {c i : CallId} {a : Action}

/-! ## States without a call -/

def without (s : State) (c : CallId) : State :=
  { s with calls := s.calls.set c { context := {}, style := .async, point := .done .dropped } }

theorem without_eq : s.without c =
    s.editCall c fun _ => { context := {}, style := .async, point := .done .dropped } := by
  simp only [without, editCall, List.set_eq_modify]

/-- What the call has become does not matter. -/
theorem editCall_without {g : Call → Call} : (s.editCall c g).without c = s.without c := by
  simp only [without_eq, editCall, List.modify_modify_eq]
  rfl

theorem step_without (ha : a.Of c = false) (hc : c < s.calls.length) :
    (s.without c).step t a = (s.step t a).map (·.without c) := by
  rw [without_eq, step_editCall ha hc]
  simp only [without_eq]

theorem without_length : (s.without c).calls.length = s.calls.length := by simp [without]

/-- Two states that agree on all but a call go on alike. -/
theorem step_congr (h : x.without c = y.without c) (ha : a.Of c = false) (hc : c < x.calls.length)
    (hs : x.step t a = some s) : ∃ s', y.step t a = some s' ∧ s.without c = s'.without c := by
  have hlen : c < y.calls.length := by
    rw [← without_length, ← h, without_length]
    exact hc
  have hx := step_without (t := t) ha hc
  have hy := step_without (t := t) ha hlen
  rw [h, hy, hs] at hx
  obtain ⟨s', hs', he⟩ := Option.map_eq_some_iff.mp hx
  exact ⟨s', hs', he.symm⟩

/-! ## Calls that block -/

/-- The call blocks, is cancelled and has not decided. -/
def Barred (s : State) (c : CallId) : Prop :=
  ∃ call, s.calls[c]? = some call ∧ call.style = .blocking ∧ call.cancelled = true ∧
    (call.point = .deciding ∨ ∃ exit, call.point = .done exit)

theorem Barred.lt_length (hb : s.Barred c) : c < s.calls.length := by
  obtain ⟨call, hc, -⟩ := hb
  exact (List.getElem?_eq_some_iff.mp hc).1

theorem Barred.withdraws {call : Call} {p : Call.Point} {lines : List Happening}
    {tally : Metrics → Metrics} (hb : s.Barred c) (hc : s.calls[c]? = some call)
    (hw : call.Walks t s c a p lines tally) :
    p = .done (.returned (.error .cancelled)) ∧ lines = [] ∧ tally = id := by
  obtain ⟨call', hc', hs, -, hp⟩ := hb
  cases hc.symm.trans hc'
  cases hw with
  | withdrawEarly => exact ⟨rfl, rfl, rfl⟩
  | dropIdle ha | drop ha =>
    rw [hs] at ha
    cases ha
  | withdraw _ hq => rcases hq with hq | hq <;> simp [hq] at hp
  | enter hq | ask hq | answered hq | unfit hq | refused hq | crash hq | withdrawWaiting _ hq
  | again hq | share hq | finish hq => simp [hq] at hp

theorem Barred.undecided {now : Instant} (hb : s.Barred c) : s.step t (.decide c now) = none := by
  obtain ⟨⟨context, style, inside, hasRuntime, cancelled, point⟩, hc, hs, hn, hp⟩ := hb
  cases hs
  cases hn
  rcases hp with hp | ⟨exit, hp⟩ <;> cases hp <;> simp [step, decideCall, hc]

theorem Barred.step (hb : s.Barred c) (h : s.step t a = some s') : s'.Barred c := by
  have hm := step_moves h
  obtain ⟨call, hc, hs, hn, hp⟩ := hb
  obtain ⟨call', hc', -⟩ := hm.extends.call c call hc
  cases hm.callFrom hc' with
  | same hi =>
    cases hc.symm.trans hi
    exact ⟨call, hc', hs, hn, hp⟩
  | added => simp at hc
  | flagged hi =>
    cases hc.symm.trans hi
    exact ⟨_, hc', hs, rfl, hp⟩
  | decided hi =>
    rw [Barred.undecided ⟨call, hc, hs, hn, hp⟩] at h
    cases h
  | walked hi hw =>
    cases hc.symm.trans hi
    obtain ⟨hq, -⟩ := Barred.withdraws ⟨call, hc, hs, hn, hp⟩ hc hw
    exact ⟨_, hc', hs, hn, .inr ⟨_, hq⟩⟩
  | closed hi hq | launched hi hq =>
    cases hc.symm.trans hi
    simp [hq] at hp

/-- What a barred call does, nobody else sees. -/
theorem Barred.unseen (hb : s.Barred c) (h : s.step t a = some s') (ha : a.Of c = true) :
    s'.without c = s.without c := by
  cases step_moves h with
  | cancel =>
    obtain rfl : _ = c := by simpa [Action.Of] using ha
    exact editCall_without
  | decide =>
    obtain rfl : _ = c := by simpa [Action.Of] using ha
    rw [hb.undecided] at h
    cases h
  | walk hc hw =>
    obtain rfl : _ = c := by
      cases hw <;> simpa [Action.Of] using ha
    obtain ⟨-, rfl, rfl⟩ := hb.withdraws hc hw
    exact editCall_without.trans (by simp [record, count])
  | close hc hq =>
    obtain rfl : _ = c := by simpa [Action.Of] using ha
    obtain ⟨call, hc', -, -, hp⟩ := hb
    cases hc.symm.trans hc'
    simp [hq] at hp
  | launch hc hq _ hs =>
    obtain rfl : _ = c := by cases hs <;> simpa [Action.Of] using ha
    obtain ⟨call, hc', -, -, hp⟩ := hb
    cases hc.symm.trans hc'
    simp [hq] at hp
  | walkRenewal hr hw => cases hw <;> cases ha
  | call | closeRenewal | countRenewal => cases ha

/-- Beside a barred call a row goes as it does when the call's actions are left out. -/
theorem Barred.run {actions : List Action} (hb : s.Barred c) (hx : x.without c = s.without c)
    (h : s.run? t actions = some s') :
    ∃ y, x.run? t (actions.filter (!·.Of c)) = some y ∧ y.without c = s'.without c := by
  -- the run without the call's actions stays equal to this one, but for the call
  induction actions generalizing s x with
  | nil =>
    cases h
    exact ⟨x, rfl, hx⟩
  | cons a actions ih =>
    rw [run?_cons] at h
    obtain ⟨z, hz, h⟩ := Option.bind_eq_some_iff.mp h
    cases ha : a.Of c with
    | true =>
      obtain ⟨y, hy, he⟩ := ih (hb.step hz) (hx.trans (hb.unseen hz ha).symm) h
      exact ⟨y, by simpa [ha] using hy, he⟩
    | false =>
      obtain ⟨x', hx', he⟩ := step_congr hx.symm ha hb.lt_length hz
      obtain ⟨y, hy, he'⟩ := ih (hb.step hz) he.symm h
      exact ⟨y, by simp [ha, run?_cons, hx', hy], he'⟩

theorem barred_call (s : State) (context : Context) (inside hasRuntime : Bool) :
    ((s.call context .blocking inside hasRuntime).cancel s.calls.length).Barred s.calls.length := by
  simp only [call]
  cases Style.blocking.refusal? inside hasRuntime with
  | none =>
    exact ⟨{ context, style := .blocking, inside, hasRuntime, cancelled := true }, by simp [cancel],
      rfl, rfl, .inl rfl⟩
  | some fault =>
    let told : Call.Point := .done (.returned (.error (.config fault)))
    exact ⟨{ context, style := .blocking, inside, hasRuntime, cancelled := true, point := told },
      by simp [cancel, told], rfl, rfl, .inr ⟨_, rfl⟩⟩

/-! ## Calls that wait as tasks -/

def Keeps (s : State) (now : Instant) : Decision → Prop
  | .wait _ => True
  | .serve _ _ => ∀ f o, s.holding.standby = some f → s.outcome? f = some o →
      o ≠ .cancelled ∧ ∀ pass, o = .ready pass → pass.expiredAt now = true
  | _ => False

/-- The flight that a decision opens is nowhere held before. -/
theorem keeps_iff (hs : s.holding.Sound s) {context : Context} {now : Instant} {h' : Holding}
    {d : Decision} (hd : s.holding.Decides s.outcome? s.flights.length context now h' d) :
    h' = s.holding ↔ s.Keeps now d := by
  have hcurrent : s.holding.current ≠ some s.flights.length := by
    intro hf
    obtain ⟨_, -, hk, -⟩ := hs.current _ hf
    exact Nat.lt_irrefl _ hk.lt_length
  have hstandby : s.holding.standby ≠ some s.flights.length := by
    intro hf
    obtain ⟨_, _, _, -, hk, -⟩ := hs.standby _ hf
    exact Nat.lt_irrefl _ hk.lt_length
  cases hd with
  | anew | lapsed => exact iff_of_false (fun he => hcurrent (he ▸ rfl)) id
  | renew => exact iff_of_false (fun he => hstandby (he ▸ rfl)) id
  | wait => exact iff_of_true rfl trivial
  | serve _ _ _ _ hm =>
    cases hm with
    | kept hk => exact iff_of_true rfl hk
    | promoted hf ho hgood =>
      refine iff_of_false (fun he => ?_) fun hk => ?_
      · have hnone : none = s.holding.standby := congrArg Holding.standby he
        cases hnone.trans hf
      · rw [(hk _ _ hf ho).2 _ rfl] at hgood
        cases hgood
    | forgotten hf ho =>
      refine iff_of_false (fun he => ?_) fun hk => (hk _ _ hf ho).1 rfl
      have hnone : none = s.holding.standby := congrArg Holding.standby he
      cases hnone.trans hf

theorem step_decide {call : Call} (hc : s.calls[c]? = some call) (hs : call.style = .async)
    (hp : call.point = .deciding) (now : Instant) : ∃ s' d, s.step t (.decide c now) = some s' ∧
      s.holding.decide s.outcome? s.flights.length call.context now = (s'.holding, d) := by
  have hb : call.style = .blocking → call.cancelled = false := by simp [hs]
  exact ⟨_, _, step_decideCall hc hp hb now, by rw [follow_holding]; rfl⟩

/-- Only a decision changes what is held. -/
theorem run_holding {actions : List Action} (h : s.run? t actions = some s')
    (ha : ∀ a ∈ actions, ∀ c now, a ≠ .decide c now) : s'.holding = s.holding := by
  refine run_induction (P := fun x => x.holding = s.holding) h rfl fun a x y hmem hstep hx => ?_
  cases (step_moves hstep).holdingFrom with
  | same hh => exact hh.trans hx
  | decided => exact absurd rfl (ha _ hmem _ _)

/-- What a call for the context comes to whose caller asks to cancel before it begins. -/
structure Spares (t : Timing) (s : State) (context : Context) (inside hasRuntime : Bool) : Prop where
  /-- All but the call itself is as if it had done nothing. -/
  unseen (actions : List Action) (s' : State) :
    (s.call context .blocking inside hasRuntime).run? t (.cancel s.calls.length :: actions) = some s' →
      ∃ y, (s.call context .blocking inside hasRuntime).run? t
          (actions.filter (!·.Of s.calls.length)) = some y ∧
        y.without s.calls.length = s'.without s.calls.length
  blocking (actions : List Action) (s' : State) :
    (s.call context .blocking inside hasRuntime).run? t (.cancel s.calls.length :: actions) = some s' →
      (∀ a ∈ actions, a.Of s.calls.length = true) → s'.holding = s.holding
  async (now : Instant) : ∃ x d,
    (s.call context .async inside hasRuntime).run? t
        [.cancel s.calls.length, .decide s.calls.length now] = some x ∧
      s.holding.decide s.outcome? s.flights.length context now = (x.holding, d) ∧
      ∀ actions s', x.run? t actions = some s' → (∀ a ∈ actions, ∀ c now, a ≠ .decide c now) →
        (s'.holding = s.holding ↔ s.Keeps now d)

end State

open State

variable {t : Timing} {s : State}

/-- A cancelled call that blocks leaves no trace; one that does not leaves what is held as it was
exactly when its decision does. -/
theorem Reachable.spares (hr : Reachable t s) (context : Context) (inside hasRuntime : Bool) :
    s.Spares t context inside hasRuntime := by
  have hunseen : ∀ actions s', (s.call context .blocking inside hasRuntime).run? t
      (.cancel s.calls.length :: actions) = some s' →
      ∃ y, (s.call context .blocking inside hasRuntime).run? t
          (actions.filter (!·.Of s.calls.length)) = some y ∧
        y.without s.calls.length = s'.without s.calls.length := by
    intro actions s' h
    exact (s.barred_call context inside hasRuntime).run editCall_without.symm h
  refine ⟨hunseen, fun actions s' h hown => ?_, fun now => ?_⟩
  · obtain ⟨y, hy, he⟩ := hunseen actions s' h
    have hnone : actions.filter (!·.Of s.calls.length) = [] := by simpa using hown
    rw [hnone] at hy
    cases hy
    exact (congrArg State.holding he).symm
  · let y := (s.call context .async inside hasRuntime).cancel s.calls.length
    have hc : y.calls[s.calls.length]? =
        some { context, style := .async, inside, hasRuntime, cancelled := true } := by
      simp [y, call, cancel, Style.refusal?]
    obtain ⟨x, d, hx, hd⟩ := step_decide (t := t) hc rfl rfl now
    refine ⟨x, d, ?_, hd, fun actions s' h hn => ?_⟩
    · rw [run?_cons]
      change y.run? t [.decide s.calls.length now] = some x
      rw [run?_cons, hx]
      rfl
    · rw [run_holding h hn]
      exact keeps_iff hr.sound (Holding.decide_decides hd)

/-- A blocking call for another context is withdrawn beside a good pass. -/
theorem spares_heldRow : ∃ s s', State.run? {} {} (heldRow true) = some s ∧ (s.call { claims := "B" }
    .blocking false true).run? {} (.cancel s.calls.length :: [.withdraw 1]) = some s' ∧
      s'.holding = s.holding := by
  obtain ⟨s, s', h, h', hlen⟩ : ∃ s s', State.run? {} {} (heldRow true) = some s ∧
      (s.call { claims := "B" } .blocking false true).run? {}
        (.cancel s.calls.length :: [.withdraw 1]) = some s' ∧ s.calls.length = 1 :=
    ⟨_, _, rfl, rfl, rfl⟩
  exact ⟨s, s', h, h', (Reachable.spares ⟨_, h⟩ _ _ _).blocking _ s' h' (by rw [hlen]; decide)⟩

/-- A task that is cancelled before it begins can evict a good pass all the same. -/
theorem not_always_sparing : ¬ ∀ (t : Timing) (s s' : State) (context : Context) (style : Style)
    (inside hasRuntime : Bool) (actions : List Action), Reachable t s →
    (s.call context style inside hasRuntime).run? t (.cancel s.calls.length :: actions) = some s' →
    (∀ a ∈ actions, a.Of s.calls.length = true) → s'.holding = s.holding := by
  intro hall
  obtain ⟨s, s', h, h', hlen, hlost⟩ : ∃ s s', State.run? {} {} (heldRow true) = some s ∧
      (s.call { claims := "B" } .async false true).run? {} (.cancel s.calls.length ::
        [.decide 1 ⟨1⟩, .enter 1, .withdraw 1, .close 1]) = some s' ∧ s.calls.length = 1 ∧
      s'.holding.current ≠ s.holding.current := ⟨_, _, rfl, rfl, rfl, by decide⟩
  have hsame := hall {} s s' _ _ _ _ _ ⟨_, h⟩ h' (by rw [hlen]; decide)
  exact hlost (congrArg Holding.current hsame)

end BearerTokens.Cache
