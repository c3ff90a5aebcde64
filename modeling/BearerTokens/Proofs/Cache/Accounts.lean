import BearerTokens.Proofs.Cache.Renewals

/-! # Accounts of the renewals

A renewal is counted once when a call starts it and once more by its ending, after its flight has got
an outcome.  The counters of a reachable state therefore tell how many renewals there are, how many
have ended in each of the three ways, and how many are yet to be counted.
-/

namespace BearerTokens

open Cache in
def Metrics.ended (m : Metrics) : Ending → Nat
  | .succeeded => m.succeeded
  | .fellBack => m.fallbacks
  | .abandoned => m.abandoned

namespace Cache

def Renewal.Point.counted? : Renewal.Point → Option Ending
  | .settled ending => some ending
  | _ => none

def State.marks (s : State) : List (Option Ending) := s.renewals.map (·.point.counted?)

theorem length_eq_counts (marks : List (Option Ending)) : marks.length =
    marks.count (some .succeeded) + marks.count (some .fellBack) + marks.count (some .abandoned) +
      marks.count none := by
  induction marks with
  | nil => rfl
  | cons mark marks ih =>
    rw [List.length_cons, ih]
    cases mark with
    | none => simp; omega
    | some ending => cases ending <;> simp <;> omega

variable {t : Timing} {s s' : State} {r : RenewalId} {renewal : Renewal}

/-! ## What one action counts -/

theorem Call.Walks.tally_ended {c : CallId} {call : Call} {a : Action} {p : Point}
    {lines : List Happening} {tally : Metrics → Metrics} (hw : call.Walks t s c a p lines tally)
    (m : Metrics) : (tally m).started = m.started ∧ (tally m).ended = m.ended := by
  cases hw <;> exact ⟨rfl, funext fun ending => by cases ending <;> rfl⟩

theorem Renewal.Keeps.uncounted_point {now : Instant} {delay : Duration} {reason : Reason}
    {error : String} {p : Point} {lines : List Happening}
    (hk : renewal.Keeps r now delay reason error p lines) : p.counted? = none := by
  cases hk <;> rfl

theorem Renewal.Starts.uncounted_point {c : CallId} {call : Call} {a : Action} {p : Point}
    {q : Call.Point} {lines : List Happening} (hs : renewal.Starts t c call r a p q lines) : p.counted? = none := by
  cases hs with
  | hosted => rfl
  | alone hk => exact hk.uncounted_point

theorem Renewal.Walks.uncounted_points {a : Action} {p : Point} {lines : List Happening}
    (hw : renewal.Walks t r a p lines) : renewal.point.counted? = none ∧ p.counted? = none := by
  cases hw with
  | refused hp hk | expire hp hk => exact ⟨by rw [hp]; rfl, hk.uncounted_point⟩
  | abandon hp => rcases hp with hp | hp <;> exact ⟨by rw [hp]; rfl, rfl⟩
  | begin hp | ask hp | answered hp | unfit hp => exact ⟨by rw [hp]; rfl, rfl⟩

namespace State

theorem marks_moveRenewal (hr : s.renewals[r]? = some renewal) (p : Renewal.Point) :
    (s.moveRenewal r p).marks = s.marks.set r p.counted? := by
  refine List.ext_getElem? fun i => ?_
  by_cases hi : r = i
  · subst hi
    have hlt : r < s.renewals.length := (List.getElem?_eq_some_iff.mp hr).1
    simp [marks, moveRenewal, hlt]
  · simp [marks, moveRenewal, List.getElem?_modify_ne _ _ hi, List.getElem?_set_ne hi]

theorem marks_moveRenewal_eq (hr : s.renewals[r]? = some renewal) {p : Renewal.Point}
    (hp : p.counted? = renewal.point.counted?) : (s.moveRenewal r p).marks = s.marks := by
  have hmark : s.marks[r]? = some p.counted? := by simp [marks, hr, hp]
  obtain ⟨hlt, hget⟩ := List.getElem?_eq_some_iff.mp hmark
  rw [marks_moveRenewal hr, ← hget, List.set_getElem_self]

inductive Counts (s s' : State) : Action → Prop where
  | none {a : Action} (hs : s'.metrics.started = s.metrics.started)
      (he : s'.metrics.ended = s.metrics.ended) (hm : s'.marks = s.marks) : Counts s s' a
  | started {a : Action} (hs : s'.metrics.started = s.metrics.started + 1)
      (he : s'.metrics.ended = s.metrics.ended) (hm : s'.marks = s.marks ++ [.none]) : Counts s s' a
  | ended {r : RenewalId} {renewal : Renewal} {ending : Ending}
      (hr : s.renewals[r]? = some renewal) (hp : renewal.point = .written ending)
      (hs : s'.metrics.started = s.metrics.started)
      (he : ∀ e, s'.metrics.ended e = s.metrics.ended e + if e = ending then 1 else 0)
      (hm : s'.marks = s.marks.set r (some ending)) : Counts s s' (.countRenewal r)

theorem Moves.counts {a : Action} (hm : Moves t s a s') : Counts s s' a := by
  cases hm with
  | call | cancel | close => exact .none rfl rfl rfl
  | @decide c call now holding d hc hp hd =>
    refine .none ?_ ?_ ?_
    · rw [follow_metrics]
      cases d <;> rfl
    · rw [follow_metrics]
      funext ending
      cases d <;> cases ending <;> rfl
    · rw [marks, follow_renewals]
      rfl
  | walk hc hw =>
    obtain ⟨hs, he⟩ := hw.tally_ended s.metrics
    exact .none hs he rfl
  | launch hc hp hr hs =>
    refine .started rfl (funext fun ending => by cases ending <;> rfl) ?_
    simp [marks, moveCall, count, record, hs.uncounted_point]
  | @walkRenewal a r renewal p lines hr hw =>
    obtain ⟨hbefore, hafter⟩ := hw.uncounted_points
    refine .none rfl rfl ?_
    exact marks_moveRenewal_eq (s := s.record lines) hr (hafter.trans hbefore.symm)
  | @closeRenewal r renewal o ending hr hp =>
    refine .none rfl rfl ?_
    exact marks_moveRenewal_eq (s := s.writeFlight renewal.flight o) hr (by rw [hp]; rfl)
  | @countRenewal r renewal ending hr hp =>
    have hr' : (s.countEnding ending).renewals[r]? = some renewal := by cases ending <;> exact hr
    refine .ended hr hp ?_ ?_ ?_
    · cases ending <;> rfl
    · intro e
      cases ending <;> cases e <;> rfl
    · rw [marks_moveRenewal hr']
      cases ending <;> rfl

/-! ## The counters of a reachable state -/

structure Ledger (s : State) : Prop where
  started : s.metrics.started = s.marks.length
  ended (e : Ending) : s.metrics.ended e = s.marks.count (some e)

theorem Ledger.step {a : Action} (hl : s.Ledger) (hm : Moves t s a s') : s'.Ledger := by
  cases hm.counts with
  | none hs he hmarks => exact ⟨by rw [hs, hmarks, hl.started], by rw [he, hmarks]; exact hl.ended⟩
  | started hs he hmarks =>
    refine ⟨?_, fun e => ?_⟩
    · rw [hs, hmarks, hl.started, List.length_append, List.length_singleton]
    · rw [he, hmarks, hl.ended]
      simp
  | @ended r renewal ending hr hp hs he hmarks =>
    have hmark : s.marks[r]? = some none := by simp [marks, hr, hp, Renewal.Point.counted?]
    obtain ⟨hlt, hget⟩ := List.getElem?_eq_some_iff.mp hmark
    refine ⟨?_, fun e => ?_⟩
    · rw [hs, hmarks, hl.started, List.length_set]
    · rw [he, hmarks, hl.ended, List.count_set hlt, hget]
      by_cases hee : e = ending
      · simp [hee]
      · simp [hee, Ne.symm hee]

theorem Ledger.total (hl : s.Ledger) : s.metrics.started =
    s.metrics.succeeded + s.metrics.fallbacks + s.metrics.abandoned + s.marks.count none := by
  have hsucceeded : s.metrics.succeeded = _ := hl.ended .succeeded
  have hfallbacks : s.metrics.fallbacks = _ := hl.ended .fellBack
  have habandoned : s.metrics.abandoned = _ := hl.ended .abandoned
  rw [hl.started, length_eq_counts, hsucceeded, hfallbacks, habandoned]

theorem Moves.ended_le {a : Action} (hm : Moves t s a s') (e : Ending) :
    s.metrics.ended e ≤ s'.metrics.ended e := by
  cases hm.counts with
  | none _ he | started _ he => exact Nat.le_of_eq (congrFun he e).symm
  | ended _ _ _ he =>
    rw [he]
    exact Nat.le_add_right ..

theorem run_ended_le {actions : List Action} (h : s.run? t actions = some s') (e : Ending) :
    s.metrics.ended e ≤ s'.metrics.ended e := by
  refine run_induction (P := fun x => s.metrics.ended e ≤ x.metrics.ended e) h (Nat.le_refl _) ?_
  intro a x y _ hstep hx
  exact Nat.le_trans hx ((step_moves hstep).ended_le e)

end State

theorem Reachable.ledger (hr : Reachable t s) : s.Ledger :=
  hr.induct ⟨rfl, fun e => by cases e <;> rfl⟩ fun _ _ _ _ hm ih => ih.step hm

/-- The flight of a renewal that has been counted, or is about to be, has the outcome that goes with
the ending. -/
theorem Reachable.written_brings (hr : Reachable t s) {ending : Ending}
    (h : s.renewals[r]? = some renewal)
    (hp : renewal.point = .written ending ∨ renewal.point = .settled ending) :
    ∃ o, s.outcome? renewal.flight = some o ∧
      Renewal.Brings t s r renewal.previous o ending := by
  refine hr.induct (P := fun x => ∀ renewal : Renewal, x.renewals[r]? = some renewal →
    renewal.point = .written ending ∨ renewal.point = .settled ending →
      ∃ o, x.outcome? renewal.flight = some o ∧ Renewal.Brings t x r renewal.previous o ending)
    (by simp) (fun a x y hx hm ih => ?_) renewal h hp
  intro renewal h hp
  have he := hm.extends
  have hold : ∀ before : Renewal, x.renewals[r]? = some before →
      before.point = .written ending ∨ before.point = .settled ending →
        ∃ o, y.outcome? before.flight = some o ∧
          Renewal.Brings t y r before.previous o ending := by
    intro before hb hq
    obtain ⟨o, ho, hbrings⟩ := ih before hb hq
    exact ⟨o, he.outcome ho, hbrings.mono he⟩
  cases hm.renewalFrom h with
  | same hi => exact hold renewal hi hp
  | started _ _ _ hs =>
    cases hs with
    | hosted => simp at hp
    | alone hk => cases hk <;> simp at hp
  | walked _ hw =>
    cases hw with
    | refused _ hk | expire _ hk => cases hk <;> simp at hp
    | begin | ask | answered | unfit | abandon => simp at hp
  | @closed _ before o ending' hi hq hf =>
    obtain rfl : ending' = ending := by simpa using hp
    have hd : x.drives? (.renewal r) = some (.background, before.flight) := by
      rw [State.drives?_renewal hi, Renewal.drives?, hq]
    exact ⟨o, hx.matched.outcome_written hd hf, (hx.closing_brings hi hq).mono he⟩
  | @counted _ before ending' hi hq =>
    obtain rfl : ending' = ending := by simpa using hp
    exact hold before hi (.inl hq)

/-! ## Every renewal gets counted -/

/-- The actions of a renewal that nothing interrupts, for one answer of the credential. -/
def renewalActions (r : RenewalId) (answer : Answer) (now : Instant) : List Action :=
  [.begin r, .askRenewal r, .answerRenewal r answer now, .closeRenewal r, .countRenewal r]

namespace State

def GetsCounted (t : Timing) (s : State) (r : RenewalId) (answer : Answer) (now : Instant) : Prop :=
  s.Attains t (renewalActions r answer now) fun x => ∃ ending, x.marks[r]? = some (some ending)

variable {answer : Answer} {now : Instant}

theorem getsCounted_settled {ending : Ending} (h : s.renewals[r]? = some renewal)
    (hp : renewal.point = .settled ending) : s.GetsCounted t r answer now := by
  refine .now ⟨ending, ?_⟩
  simp [marks, h, hp, Renewal.Point.counted?]

theorem getsCounted_written {ending : Ending} (h : s.renewals[r]? = some renewal)
    (hp : renewal.point = .written ending) : s.GetsCounted t r answer now := by
  refine .of_step (by simp [renewalActions]) (step_countRenewal h hp) ?_
  have h' : (s.countEnding ending).renewals[r]? = some renewal := by cases ending <;> exact h
  exact getsCounted_settled (moveRenewal_self h') rfl

theorem getsCounted_closing {o : Outcome} {ending : Ending} (h : s.renewals[r]? = some renewal)
    (hp : renewal.point = .closing o ending) : s.GetsCounted t r answer now := by
  refine .of_step (by simp [renewalActions]) (step_closeRenewal h hp) ?_
  exact getsCounted_written (moveRenewal_self (by exact h)) rfl

theorem getsCounted_of_walk {a : Action} {p : Renewal.Point} {lines : List Happening}
    (ha : a ∈ renewalActions r answer now) (hw : renewal.Walks t r a p lines)
    (h : s.renewals[r]? = some renewal)
    (hs : ∀ x : State, x.renewals[r]? = some { renewal with point := p } →
      x.GetsCounted t r answer now) : s.GetsCounted t r answer now :=
  .of_step ha (hw.step h) (hs _ (moveRenewal_self (by exact h)))

theorem getsCounted_asking (h : s.renewals[r]? = some renewal) (hp : renewal.point = .asking) :
    s.GetsCounted t r answer now := by
  have ha : Action.answerRenewal r answer now ∈ renewalActions r answer now := by
    simp [renewalActions]
  cases answer with
  | ok token =>
    cases ht : Pass.ofToken? token t.lead with
    | some pass =>
      exact getsCounted_of_walk ha (.answered hp ht) h fun x hx => getsCounted_closing hx rfl
    | none => exact getsCounted_of_walk ha (.unfit hp ht) h fun x hx => getsCounted_closing hx rfl
  | error fault =>
    cases hd : renewal.previous.deferred? now t.retry with
    | some pass =>
      exact getsCounted_of_walk ha (.refused hp (.kept hd)) h
        fun x hx => getsCounted_closing hx rfl
    | none =>
      exact getsCounted_of_walk ha (.refused hp (.lost hd)) h
        fun x hx => getsCounted_closing hx rfl

theorem getsCounted_calling (h : s.renewals[r]? = some renewal) (hp : renewal.point = .calling) :
    s.GetsCounted t r answer now := by
  have ha : Action.askRenewal r ∈ renewalActions r answer now := by simp [renewalActions]
  exact getsCounted_of_walk ha (.ask hp) h fun x hx => getsCounted_asking hx rfl

theorem getsCounted_queued (h : s.renewals[r]? = some renewal) (hp : renewal.point = .queued) :
    s.GetsCounted t r answer now := by
  have ha : Action.begin r ∈ renewalActions r answer now := by simp [renewalActions]
  exact getsCounted_of_walk ha (.begin hp) h fun x hx => getsCounted_calling hx rfl

/-- Whatever the credential answers, a renewal can get itself counted. -/
theorem getsCounted (h : s.renewals[r]? = some renewal) : s.GetsCounted t r answer now := by
  cases hp : renewal.point with
  | queued => exact getsCounted_queued h hp
  | calling => exact getsCounted_calling h hp
  | asking => exact getsCounted_asking h hp
  | closing o ending => exact getsCounted_closing h hp
  | written ending => exact getsCounted_written h hp
  | settled ending => exact getsCounted_settled h hp

/-! ## The accounts -/

/-- What a renewal is counted by stays. -/
theorem Moves.mark_stays {a : Action} (hm : Moves t s a s') {ending : Ending}
    (h : s.marks[r]? = some (some ending)) : s'.marks[r]? = some (some ending) := by
  cases hm.counts with
  | none _ _ hmarks => rw [hmarks, h]
  | started _ _ hmarks =>
    have hlt : r < s.marks.length := (List.getElem?_eq_some_iff.mp h).1
    rw [hmarks, List.getElem?_append_left hlt, h]
  | @ended i renewal _ hi hp _ _ hmarks =>
    have hmark : s.marks[i]? = some none := by simp [marks, hi, hp, Renewal.Point.counted?]
    have hne : i ≠ r := by
      rintro rfl
      cases hmark.symm.trans h
    rw [hmarks, List.getElem?_set_ne hne, h]

theorem mark_eq {ending : Ending} (h : s.renewals[r]? = some renewal)
    (hm : s.marks[r]? = some (some ending)) : renewal.point = .settled ending := by
  have hcounted : renewal.point.counted? = some ending := by simpa [marks, h] using hm
  cases hp : renewal.point with
  | settled e =>
    rw [hp] at hcounted
    cases hcounted
    rfl
  | _ =>
    rw [hp] at hcounted
    cases hcounted

structure Accounts (t : Timing) (s : State) : Prop where
  started : s.metrics.started = s.renewals.length
  ended (e : Ending) : s.metrics.ended e = s.marks.count (some e)
  total : s.metrics.started =
    s.metrics.succeeded + s.metrics.fallbacks + s.metrics.abandoned + s.marks.count none
  inFlight : s.metrics.inFlight = s.marks.count none
  /-- A counter of endings goes up by one when a renewal is counted that was not, and whose flight has
  the outcome that goes with the ending. -/
  once (a : Action) (s' : State) : s.step t a = some s' → s'.metrics.ended = s.metrics.ended ∨
    ∃ r renewal e o, a = .countRenewal r ∧ s.renewals[r]? = some renewal ∧
      s.marks[r]? = some none ∧ s'.marks[r]? = some (some e) ∧
      s.outcome? renewal.flight = some o ∧ Renewal.Brings t s r renewal.previous o e ∧
      ∀ e', s'.metrics.ended e' = s.metrics.ended e' + if e' = e then 1 else 0
  forGood (r : RenewalId) (e : Ending) (actions : List Action) (s' : State) :
    s.marks[r]? = some (some e) → s.run? t actions = some s' → s'.marks[r]? = some (some e)
  counted (r : RenewalId) (renewal : Renewal) (answer : Answer) (now : Instant) :
    s.renewals[r]? = some renewal → s.GetsCounted t r answer now
  written (r : RenewalId) (renewal : Renewal) (e : Ending) : s.renewals[r]? = some renewal →
    s.marks[r]? = some (some e) → ∃ o, s.outcome? renewal.flight = some o ∧
      Renewal.Brings t s r renewal.previous o e
  idle : s.metrics.inFlight = 0 → ∀ (r : RenewalId) (renewal : Renewal),
    s.renewals[r]? = some renewal → ∃ o, s.outcome? renewal.flight = some o
  /-- Whoever takes the counters one after another, the starts last, while others go on, finds no
  fewer starts than endings and renewals yet to be counted. -/
  taken (first second third : List Action) (x y z : State) : s.run? t first = some x →
    x.run? t second = some y → y.run? t third = some z →
      s.metrics.succeeded + x.metrics.fallbacks + y.metrics.abandoned + z.marks.count none ≤
        z.metrics.started

end State

/-- A renewal is counted in exactly one way, once, and after it has written its outcome. -/
theorem Reachable.accounts (hr : Reachable t s) : s.Accounts t where
  started := by rw [hr.ledger.started, State.marks, List.length_map]
  ended := hr.ledger.ended
  total := hr.ledger.total
  inFlight := by
    have htotal := hr.ledger.total
    unfold Metrics.inFlight
    omega
  once a s' hstep := by
    cases (State.step_moves hstep).counts with
    | none _ he | started _ he => exact .inl he
    | @ended r renewal e h hp _ he hmarks =>
      obtain ⟨o, ho, hbrings⟩ := hr.written_brings h (.inl hp)
      have hmark : s.marks[r]? = some none := by simp [State.marks, h, hp, Renewal.Point.counted?]
      have hlt : r < s.marks.length := (List.getElem?_eq_some_iff.mp hmark).1
      have hmark' : s'.marks[r]? = some (some e) := by rw [hmarks, List.getElem?_set_self hlt]
      exact .inr ⟨r, renewal, e, o, rfl, h, hmark, hmark', ho, hbrings, he⟩
  forGood r e actions s' hmark h :=
    State.run_induction (P := fun x => x.marks[r]? = some (some e)) h hmark
      fun _ _ _ _ hstep hx => (State.step_moves hstep).mark_stays hx
  counted r renewal answer now h := State.getsCounted h
  written r renewal e h hmark := hr.written_brings h (.inr (State.mark_eq h hmark))
  idle hzero r renewal h := by
    have htotal := hr.ledger.total
    have hnone : s.marks.count none = 0 := by
      unfold Metrics.inFlight at hzero
      omega
    have hmark : s.marks[r]? = some renewal.point.counted? := by simp [State.marks, h]
    cases hc : renewal.point.counted? with
    | none =>
      rw [hc] at hmark
      exact absurd (List.mem_of_getElem? hmark) (List.count_eq_zero.mp hnone)
    | some e =>
      rw [hc] at hmark
      obtain ⟨o, ho, -⟩ := hr.written_brings h (.inr (State.mark_eq h hmark))
      exact ⟨o, ho⟩
  taken first second third x y z hx hy hz := by
    have hsucceeded : s.metrics.succeeded ≤ z.metrics.succeeded :=
      Nat.le_trans (State.run_ended_le hx .succeeded)
        (Nat.le_trans (State.run_ended_le hy .succeeded) (State.run_ended_le hz .succeeded))
    have hfallbacks : x.metrics.fallbacks ≤ z.metrics.fallbacks :=
      Nat.le_trans (State.run_ended_le hy .fellBack) (State.run_ended_le hz .fellBack)
    have habandoned : y.metrics.abandoned ≤ z.metrics.abandoned := State.run_ended_le hz .abandoned
    have htotal := (((hr.run hx).run hy).run hz).ledger.total
    omega

/-- A renewal fails and another one is dropped in the queue. -/
def droppedRow : List Action :=
  [.call {} .async false true, .decide 0 ⟨0⟩, .enter 0, .ask 0,
    .answer 0 (.ok (.ofText "T1" ⟨600000000000⟩)), .close 0,
    .call {} .async false true, .decide 1 ⟨400000000000⟩, .launch 1,
    .begin 0, .askRenewal 0, .answerRenewal 0 (.error (.unavailable "down")) ⟨400000000000⟩,
    .closeRenewal 0, .countRenewal 0, .call {} .async false true, .decide 2 ⟨430000000000⟩,
    .launch 2, .abandon 1]

theorem accounts_droppedRow : ∃ s, State.run? {} {} droppedRow = some s ∧ s.Accounts {} ∧
    s.marks = [some .fellBack, none] ∧ s.metrics.started = 2 ∧ s.metrics.fallbacks = 1 ∧
      s.metrics.inFlight = 1 := by
  obtain ⟨s, h, hmarks, hstarted, hfallbacks, hflight⟩ : ∃ s, State.run? {} {} droppedRow = some s ∧
      s.marks = [some .fellBack, none] ∧ s.metrics.started = 2 ∧ s.metrics.fallbacks = 1 ∧
        s.metrics.inFlight = 1 := ⟨_, rfl, rfl, rfl, rfl, rfl⟩
  exact ⟨s, h, Reachable.accounts ⟨_, h⟩, hmarks, hstarted, hfallbacks, hflight⟩

end Cache
end BearerTokens
