import BearerTokens.Proofs.Cache.Moves
import Mathlib.Data.List.Induction

/-! # Rows of actions

A state is reachable when some row of actions leads to it from an empty cache.  Along a row nothing is
taken back: flights, calls and renewals keep their numbers and what they were opened with, an outcome
once written stays, and the history only grows.
-/

namespace BearerTokens.Cache

structure Extends (s s' : State) : Prop where
  flight (f : FlightId) (flight : Flight) : s.flights[f]? = some flight →
    ∃ flight' : Flight, s'.flights[f]? = some flight' ∧ flight'.mode = flight.mode ∧
      flight'.context = flight.context ∧ ∀ o, flight.outcome = some o → flight'.outcome = some o
  call (c : CallId) (call : Call) : s.calls[c]? = some call →
    ∃ call' : Call, s'.calls[c]? = some call' ∧ call'.context = call.context ∧
      call'.style = call.style ∧ call'.hosted = call.hosted
  renewal (r : RenewalId) (renewal : Renewal) : s.renewals[r]? = some renewal →
    ∃ p, s'.renewals[r]? = some { renewal with point := p }
  history : s.history <+: s'.history

namespace Extends

theorem refl (s : State) : Extends s s :=
  ⟨fun _ flight h => ⟨flight, h, rfl, rfl, fun _ ho => ho⟩,
    fun _ call h => ⟨call, h, rfl, rfl, rfl⟩,
    fun _ renewal h => ⟨renewal.point, h⟩, List.prefix_refl _⟩

theorem trans {s s' s'' : State} (h : Extends s s') (k : Extends s' s'') : Extends s s'' := by
  refine ⟨?_, ?_, ?_, h.history.trans k.history⟩
  · intro f flight hf
    obtain ⟨flight', hf', hm', hc', ho'⟩ := h.flight f flight hf
    obtain ⟨flight'', hf'', hm'', hc'', ho''⟩ := k.flight f flight' hf'
    exact ⟨flight'', hf'', hm''.trans hm', hc''.trans hc', fun o ho => ho'' o (ho' o ho)⟩
  · intro c call hc
    obtain ⟨call', hc', hx', hs', hh'⟩ := h.call c call hc
    obtain ⟨call'', hc'', hx'', hs'', hh''⟩ := k.call c call' hc'
    exact ⟨call'', hc'', hx''.trans hx', hs''.trans hs', hh''.trans hh'⟩
  · intro r renewal hr
    obtain ⟨p, hp⟩ := h.renewal r renewal hr
    obtain ⟨q, hq⟩ := k.renewal r _ hp
    exact ⟨q, hq⟩

theorem outcome {s s' : State} (h : Extends s s') {f : FlightId} {o : Outcome}
    (ho : s.outcome? f = some o) : s'.outcome? f = some o := by
  obtain ⟨flight, hf, hfo⟩ := Option.bind_eq_some_iff.mp ho
  obtain ⟨flight', hf', -, -, ho'⟩ := h.flight f flight hf
  simp [State.outcome?, hf', ho' o hfo]

theorem length_le {s s' : State} (h : Extends s s') : s.flights.length ≤ s'.flights.length := by
  cases hn : s.flights.length with
  | zero => exact Nat.zero_le _
  | succ k =>
    have hk : k < s.flights.length := by omega
    obtain ⟨flight', hf', -⟩ := h.flight k _ (List.getElem?_eq_getElem hk)
    exact (List.getElem?_eq_some_iff.mp hf').1

end Extends

namespace State

variable {t : Timing} {s s' : State}

/-! ## What each change of a state keeps -/

private theorem getElem?_append_some {α : Type} {l l' : List α} {i : Nat} {a : α}
    (h : l[i]? = some a) : (l ++ l')[i]? = some a := by
  rw [List.getElem?_append_left (List.getElem?_eq_some_iff.mp h).1, h]

/-- Calls, renewals and flights are numbered in the order in which they are added. -/
theorem getElem?_concat {α : Type} (l : List α) (a : α) (i : Nat) :
    (l ++ [a])[i]? = if i = l.length then some a else l[i]? := by
  rcases Nat.lt_trichotomy i l.length with hi | rfl | hi
  · rw [List.getElem?_append_left hi, if_neg (Nat.ne_of_lt hi)]
  · simp
  · rw [List.getElem?_eq_none (by rw [List.length_append]; exact hi), if_neg (Nat.ne_of_gt hi),
      List.getElem?_eq_none (Nat.le_of_lt hi)]

theorem extends_record (lines : List Happening) : Extends s (s.record lines) :=
  { Extends.refl s with history := List.prefix_append _ _ }

theorem extends_holding (holding : Holding) : Extends s { s with holding } :=
  { Extends.refl s with }

theorem extends_count (tally : Metrics → Metrics) : Extends s (s.count tally) :=
  { Extends.refl s with }

theorem extends_moveCall (c : CallId) (p : Call.Point) : Extends s (s.moveCall c p) := by
  refine { Extends.refl s with call := fun i call h => ?_ }
  by_cases hi : c = i
  · subst hi
    exact ⟨{ call with point := p }, by simp [moveCall, h], rfl, rfl, rfl⟩
  · exact ⟨call, by simp [moveCall, List.getElem?_modify_ne _ _ hi, h], rfl, rfl, rfl⟩

theorem extends_moveRenewal (r : RenewalId) (p : Renewal.Point) :
    Extends s (s.moveRenewal r p) := by
  refine { Extends.refl s with renewal := fun i renewal h => ?_ }
  by_cases hi : r = i
  · subst hi
    exact ⟨p, by simp [moveRenewal, h]⟩
  · exact ⟨renewal.point, by simp [moveRenewal, List.getElem?_modify_ne _ _ hi, h]⟩

theorem extends_openFlight (mode : Mode) (context : Context) :
    Extends s (s.openFlight mode context) :=
  { Extends.refl s with
    flight := fun _ flight h => ⟨flight, getElem?_append_some h, rfl, rfl, fun _ ho => ho⟩ }

theorem extends_call (context : Context) (style : Style) (inside hasRuntime : Bool) :
    Extends s (s.call context style inside hasRuntime) :=
  { Extends.refl s with call := fun _ call h => ⟨call, getElem?_append_some h, rfl, rfl, rfl⟩ }

theorem extends_cancel (c : CallId) : Extends s (s.cancel c) := by
  refine { Extends.refl s with call := fun i call h => ?_ }
  by_cases hi : c = i
  · subst hi
    exact ⟨{ call with cancelled := true }, by simp [cancel, h], rfl, rfl, rfl⟩
  · exact ⟨call, by simp [cancel, List.getElem?_modify_ne _ _ hi, h], rfl, rfl, rfl⟩

theorem extends_renewals (renewals : List Renewal) :
    Extends s { s with renewals := s.renewals ++ renewals } :=
  { Extends.refl s with renewal := fun _ renewal h => ⟨renewal.point, getElem?_append_some h⟩ }

theorem extends_writeFlight (f : FlightId) (o : Outcome) : Extends s (s.writeFlight f o) := by
  refine { Extends.refl s with
    flight := fun i flight h => ?_, history := List.prefix_append _ _ }
  by_cases hi : f = i
  · subst hi
    exact ⟨flight.write o, by simp [writeFlight, record, h], rfl, rfl,
      fun _ ho => Flight.outcome_write_of_some ho⟩
  · exact ⟨flight, by simp [writeFlight, record, List.getElem?_modify_ne _ _ hi, h], rfl, rfl,
      fun _ ho => ho⟩

theorem extends_follow (style : Style) (c : CallId) (context : Context) (d : Decision) :
    Extends s (s.follow style c context d) := by
  cases style <;> cases d with
  | acquire f => exact (extends_openFlight ..).trans (extends_moveCall ..)
  | wait f => exact (extends_count _).trans (extends_moveCall ..)
  | renew f source pass =>
    exact (extends_openFlight ..).trans ((extends_count _).trans (extends_moveCall ..))
  | serve source pass => exact (extends_count _).trans (extends_moveCall ..)

theorem extends_countEnding (ending : Ending) : Extends s (s.countEnding ending) := by
  cases ending <;> exact (extends_count _).trans (extends_record _)

/-- No action takes anything back. -/
theorem Moves.extends {a : Action} (h : Moves t s a s') : Extends s s' := by
  cases h with
  | call => exact extends_call ..
  | cancel => exact extends_cancel _
  | decide => exact (extends_holding _).trans ((extends_record _).trans (extends_follow ..))
  | walk => exact (extends_record _).trans ((extends_count _).trans (extends_moveCall ..))
  | close => exact (extends_writeFlight ..).trans (extends_moveCall ..)
  | launch =>
    exact (extends_renewals _).trans
      ((extends_record _).trans ((extends_count _).trans (extends_moveCall ..)))
  | walkRenewal => exact (extends_record _).trans (extends_moveRenewal ..)
  | closeRenewal => exact (extends_writeFlight ..).trans (extends_moveRenewal ..)
  | countRenewal => exact (extends_countEnding _).trans (extends_moveRenewal ..)

/-! ## Rows of actions -/

theorem run?_cons (s : State) (a : Action) (actions : List Action) :
    s.run? t (a :: actions) = (s.step t a).bind fun x => x.run? t actions := rfl

theorem run?_append (first rest : List Action) :
    s.run? t (first ++ rest) = (s.run? t first).bind fun x => x.run? t rest := by
  simp [run?, List.foldlM_append]

theorem run_extends {actions : List Action} (h : s.run? t actions = some s') : Extends s s' := by
  induction actions generalizing s with
  | nil => cases h; exact .refl _
  | cons a actions ih =>
    rw [run?_cons] at h
    obtain ⟨x, hx, h⟩ := Option.bind_eq_some_iff.mp h
    exact (step_moves hx).extends.trans (ih h)

/-- What holds of an empty row and is carried on by each action holds of the whole row. -/
theorem run_induction_on {P : List Action → State → Prop} {actions : List Action}
    (h : s.run? t actions = some s') (h0 : P [] s)
    (hP : ∀ before a x y, a ∈ actions → s.run? t before = some x → x.step t a = some y →
      Extends y s' → P before x → P (before ++ [a]) y) : P actions s' := by
  induction actions using List.reverseRecOn generalizing s' with
  | nil => cases h; exact h0
  | append_singleton actions a ih =>
    rw [run?_append] at h
    obtain ⟨x, hx, h⟩ := Option.bind_eq_some_iff.mp h
    rw [run?_cons] at h
    obtain ⟨y, hy, h⟩ := Option.bind_eq_some_iff.mp h
    obtain rfl : y = s' := Option.some.inj h
    refine hP actions a x y (by simp) hx hy (.refl y) (ih hx fun before b u v hb hu hv hx' => ?_)
    exact hP before b u v (by simp [hb]) hu hv (hx'.trans (step_moves hy).extends)

/-- What holds at the start of a row and is kept by each of its actions holds at its end. -/
theorem run_induction {P : State → Prop} {actions : List Action} (h : s.run? t actions = some s')
    (h0 : P s)
    (hP : ∀ a x y, a ∈ actions → x.step t a = some y → P x → P y) : P s' :=
  run_induction_on (P := fun _ x => P x) h h0 fun _ a x y ha _ hy _ hx => hP a x y ha hy hx

def Attains (t : Timing) (s : State) (own : List Action) (P : State → Prop) : Prop :=
  ∃ actions s', (∀ a ∈ actions, a ∈ own) ∧ s.run? t actions = some s' ∧ P s'

theorem Attains.now {own : List Action} {P : State → Prop} (hs : P s) : s.Attains t own P :=
  ⟨[], s, by simp, rfl, hs⟩

theorem Attains.of_step {own : List Action} {P : State → Prop} {a : Action} (ha : a ∈ own)
    (h : s.step t a = some s') (hs : s'.Attains t own P) : s.Attains t own P := by
  obtain ⟨actions, x, hown, hrun, hx⟩ := hs
  refine ⟨a :: actions, x, ?_, ?_, hx⟩
  · intro b hb
    rcases List.mem_cons.mp hb with rfl | hb
    · exact ha
    · exact hown b hb
  · rw [run?_cons, h]
    exact hrun

end State

/-- Some row of actions leads to the state from an empty cache. -/
def Reachable (t : Timing) (s : State) : Prop := ∃ actions, State.run? t {} actions = some s

namespace Reachable

variable {t : Timing} {s s' : State}

theorem start : Reachable t {} := ⟨[], rfl⟩

theorem run (hr : Reachable t s) {actions : List Action} (h : s.run? t actions = some s') :
    Reachable t s' := by
  obtain ⟨before, hb⟩ := hr
  exact ⟨before ++ actions, by rw [State.run?_append, hb]; exact h⟩

theorem step (hr : Reachable t s) {a : Action} (h : s.step t a = some s') : Reachable t s' :=
  hr.run (show s.run? t [a] = some s' by rw [State.run?_cons, h]; rfl)

/-- What holds of an empty cache and is kept by each action holds of every reachable state. -/
theorem induct {P : State → Prop} (hr : Reachable t s) (h0 : P {})
    (hP : ∀ a x y, Reachable t x → State.Moves t x a y → P x → P y) : P s := by
  obtain ⟨actions, h⟩ := hr
  have hb := State.run_induction (P := fun x => Reachable t x ∧ P x) h ⟨start, h0⟩
    fun a x y _ hm hx => ⟨hx.1.step hm, hP a x y hx.1 (State.step_moves hm) hx.2⟩
  exact hb.2

end Reachable

end BearerTokens.Cache
