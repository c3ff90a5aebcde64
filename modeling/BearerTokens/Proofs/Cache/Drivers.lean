import BearerTokens.Proofs.Cache.Runs
import Mathlib.Logic.Function.Basic

/-! # Who fills a flight

A call inside an acquisition drives the flight that it opened; a renewal drives the flight on standby,
and before it has begun the call about to start it does.  In every reachable state the flights
without an outcome and the drivers match one to one, and the role of a driver is that of its flight.
-/

namespace BearerTokens.Cache

def Call.Point.drives? : Call.Point → Option (Mode × FlightId)
  | .opening f | .calling f | .asking f | .closing f _ _ => some (.synchronous, f)
  | .launching f _ _ => some (.background, f)
  | _ => none

def Renewal.drives? (renewal : Renewal) : Option (Mode × FlightId) :=
  match renewal.point with
  | .queued | .calling | .asking | .closing _ _ => some (.background, renewal.flight)
  | .written _ | .settled _ => none

def State.drives? (s : State) : Requester → Option (Mode × FlightId)
  | .call c => (s.calls[c]?).bind (·.point.drives?)
  | .renewal r => (s.renewals[r]?).bind Renewal.drives?

/-- A call going on by itself keeps its flight. -/
theorem Call.Walks.drives_eq {t : Timing} {s : State} {c : CallId} {call : Call} {a : Action}
    {p : Point} {lines : List Happening} {tally : Metrics → Metrics}
    (hw : call.Walks t s c a p lines tally) : p.drives? = call.point.drives? := by
  cases hw with
  | withdraw _ hp => rcases hp with hp | hp <;> simp [hp, Point.drives?]
  | dropIdle _ hp => rcases hp with hp | ⟨f, hp⟩ <;> simp [hp, Point.drives?]
  | _ => simp_all [Point.drives?]

theorem Renewal.Keeps.drives_eq {r : RenewalId} {renewal : Renewal} {now : Instant}
    {delay : Duration} {reason : Reason} {error : String} {p : Point} {lines : List Happening}
    (hk : renewal.Keeps r now delay reason error p lines) :
    drives? { renewal with point := p } = some (.background, renewal.flight) := by
  cases hk <;> rfl

/-- A renewal going on by itself keeps its flight. -/
theorem Renewal.Walks.drives_eq {t : Timing} {r : RenewalId} {renewal : Renewal} {a : Action}
    {p : Point} {lines : List Happening} (hw : renewal.Walks t r a p lines) :
    drives? { renewal with point := p } = renewal.drives? := by
  cases hw with
  | refused hp hk => rw [hk.drives_eq]; simp [drives?, hp]
  | expire hp hk => rw [hk.drives_eq]; simp [drives?, hp]
  | abandon hp => rcases hp with hp | hp <;> simp [drives?, hp]
  | _ => simp_all [drives?]

theorem Renewal.Starts.drives_eq {t : Timing} {c : CallId} {call : Call} {r : RenewalId}
    {renewal : Renewal} {a : Action} {p : Point} {q : Call.Point} {lines : List Happening}
    (hs : renewal.Starts t c call r a p q lines) :
    q.drives? = none ∧ drives? { renewal with point := p } = some (.background, renewal.flight) := by
  cases hs with
  | hosted => exact ⟨rfl, rfl⟩
  | alone hk => exact ⟨rfl, hk.drives_eq⟩

namespace State

variable {t : Timing} {s s' : State}

@[simp] theorem drives?_record (lines : List Happening) : (s.record lines).drives? = s.drives? := by
  funext q; cases q <;> rfl

@[simp] theorem drives?_count (tally : Metrics → Metrics) : (s.count tally).drives? = s.drives? := by
  funext q; cases q <;> rfl

@[simp] theorem drives?_holding (holding : Holding) : drives? { s with holding } = s.drives? := by
  funext q; cases q <;> rfl

@[simp] theorem drives?_openFlight (mode : Mode) (context : Context) :
    (s.openFlight mode context).drives? = s.drives? := by
  funext q; cases q <;> rfl

@[simp] theorem drives?_writeFlight (f : FlightId) (o : Outcome) :
    (s.writeFlight f o).drives? = s.drives? := by
  funext q; cases q <;> rfl

@[simp] theorem drives?_countEnding (ending : Ending) :
    (s.countEnding ending).drives? = s.drives? := by
  cases ending <;> simp [countEnding, report]

theorem drives?_moveCall {c : CallId} {call : Call} (p : Call.Point) (hc : s.calls[c]? = some call) :
    (s.moveCall c p).drives? = Function.update s.drives? (.call c) p.drives? := by
  funext q
  cases q with
  | call i =>
    by_cases hi : i = c
    · subst hi
      simp [drives?, moveCall, hc]
    · have hne : Requester.call i ≠ .call c := by simpa using hi
      simp [drives?, moveCall, Function.update_of_ne hne, List.getElem?_modify_ne _ _ (Ne.symm hi)]
  | renewal r => simp [drives?, moveCall]

theorem drives?_moveRenewal {r : RenewalId} {renewal : Renewal} (p : Renewal.Point)
    (hr : s.renewals[r]? = some renewal) : (s.moveRenewal r p).drives? =
      Function.update s.drives? (.renewal r) (Renewal.drives? { renewal with point := p }) := by
  funext q
  cases q with
  | call c => simp [drives?, moveRenewal]
  | renewal i =>
    by_cases hi : i = r
    · subst hi
      simp [drives?, moveRenewal, hr]
    · have hne : Requester.renewal i ≠ .renewal r := by simpa using hi
      simp [drives?, moveRenewal, Function.update_of_ne hne,
        List.getElem?_modify_ne _ _ (Ne.symm hi)]

theorem drives?_addRenewal (renewal : Renewal) :
    drives? { s with renewals := s.renewals ++ [renewal] } =
      Function.update s.drives? (.renewal s.renewals.length) renewal.drives? := by
  funext q
  cases q with
  | call c => simp [drives?]
  | renewal i =>
    by_cases hi : i = s.renewals.length
    · subst hi
      simp [drives?]
    · have hne : Requester.renewal i ≠ .renewal s.renewals.length := by simpa using hi
      rw [Function.update_of_ne hne]
      simp [drives?, getElem?_concat, hi]

inductive Shifts (s s' : State) : Prop where
  | same (hf : s'.flights = s.flights) (hd : s'.drives? = s.drives?)
  | opened {q : Requester} {m : Mode} {context : Context}
      (hf : s'.flights = s.flights ++ [{ mode := m, context := context }])
      (hq : s.drives? q = none)
      (hd : s'.drives? = Function.update s.drives? q (some (m, s.flights.length)))
  | written {q : Requester} {m : Mode} {f : FlightId} {o : Outcome}
      (hq : s.drives? q = some (m, f)) (hf : s'.flights = s.flights.modify f (·.write o))
      (hd : s'.drives? = Function.update s.drives? q none)
  /-- A call hands its flight to the renewal that it starts. -/
  | handed {q r : Requester} {f : FlightId} (hf : s'.flights = s.flights)
      (hq : s.drives? q = some (.background, f)) (hr : s.drives? r = none)
      (hd : s'.drives? = Function.update (Function.update s.drives? r (some (.background, f))) q none)

theorem drives?_call {c : CallId} {call : Call} (hc : s.calls[c]? = some call) :
    s.drives? (.call c) = call.point.drives? := by simp [drives?, hc]

theorem drives?_closing {c : CallId} {call : Call} {f : FlightId} {o : Outcome} {exit : Exit}
    (hc : s.calls[c]? = some call) (hp : call.point = .closing f o exit) :
    s.drives? (.call c) = some (.synchronous, f) := by
  rw [drives?_call hc, hp]
  rfl

theorem drives?_renewal {r : RenewalId} {renewal : Renewal} (hr : s.renewals[r]? = some renewal) :
    s.drives? (.renewal r) = renewal.drives? := by simp [drives?, hr]

theorem drives?_addCall {context : Context} {style : Style} {inside hasRuntime : Bool} :
    (s.call context style inside hasRuntime).drives? = s.drives? := by
  funext q
  cases q with
  | call i =>
    by_cases hi : i = s.calls.length
    · cases h : style.refusal? inside hasRuntime <;>
        simp [drives?, call, h, hi, Call.Point.drives?]
    · simp [drives?, call, getElem?_concat, hi]
  | renewal r => rfl

theorem drives?_cancel {c : CallId} : (s.cancel c).drives? = s.drives? := by
  funext q
  cases q with
  | call i =>
    simp only [drives?, cancel, List.getElem?_modify]
    cases s.calls[i]? with
    | none => rfl
    | some call => by_cases hi : c = i <;> simp [hi]
  | renewal r => rfl

theorem follow_shifts {c : CallId} {call : Call} {d : Decision} (style : Style) (context : Context)
    (hc : s.calls[c]? = some call) (hp : call.point = .deciding)
    (hn : ∀ f, d = .acquire f ∨ (∃ source pass, d = .renew f source pass) → f = s.flights.length) :
    Shifts s (s.follow style c context d) := by
  have hq : s.drives? (.call c) = none := by rw [drives?_call hc, hp]; rfl
  cases d with
  | acquire f =>
    obtain rfl := hn f (.inl rfl)
    refine .opened (m := .synchronous) (by cases style <;> rfl) hq ?_
    cases style <;>
      simp [follow, followTask, followThread, drives?_moveCall (s := s.openFlight ..) _ hc,
        Call.Point.drives?]
  | wait f =>
    refine .same (by cases style <;> rfl) ?_
    cases style <;>
      simp [follow, followTask, followThread, drives?_moveCall (s := s.count _) _ hc,
        Call.Point.drives?, ← hq]
  | renew f source pass =>
    obtain rfl := hn f (.inr ⟨source, pass, rfl⟩)
    refine .opened (m := .background) (by cases style <;> rfl) hq ?_
    cases style <;>
      simp [follow, followTask, followThread,
        drives?_moveCall (s := (s.openFlight ..).count _) _ hc, Call.Point.drives?]
  | serve source pass =>
    refine .same (by cases style <;> rfl) ?_
    cases style <;>
      simp [follow, followTask, followThread, drives?_moveCall (s := s.count _) _ hc,
        Call.Point.drives?, ← hq]

theorem Shifts.congr {x : State} (h : Shifts x s') (hf : x.flights = s.flights)
    (hd : x.drives? = s.drives?) : Shifts s s' := by
  cases h with
  | same hf' hd' => exact .same (hf'.trans hf) (hd'.trans hd)
  | opened hf' hq hd' => rw [hf] at hf' hd'; rw [hd] at hq hd'; exact .opened hf' hq hd'
  | written hq hf' hd' => rw [hf] at hf'; rw [hd] at hq hd'; exact .written hq hf' hd'
  | handed hf' hq hr hd' => rw [hf] at hf'; rw [hd] at hq hr hd'; exact .handed hf' hq hr hd'

theorem Moves.shifts {a : Action} (h : Moves t s a s') : Shifts s s' := by
  cases h with
  | call => exact .same rfl drives?_addCall
  | cancel => exact .same rfl drives?_cancel
  | @decide c call now holding d hc hp hd =>
    have hf := follow_shifts (s := { s with holding }.record [.decided c now d]) call.style
      call.context hc hp fun f hf => hd.opens hf
    exact hf.congr rfl (by simp)
  | @walk a c call p lines tally hc hw =>
    refine .same rfl ?_
    rw [drives?_moveCall (s := (s.record lines).count tally) p hc, hw.drives_eq,
      ← drives?_call hc]
    simp
  | @close c call f o exit hc hp =>
    refine .written (drives?_closing hc hp) rfl ?_
    rw [drives?_moveCall (s := s.writeFlight f o) _ hc, drives?_writeFlight]
    rfl
  | @launch _ c call f source pass renewal p q lines hc hp hr hs =>
    have hq : s.drives? (.call c) = some (.background, f) := by rw [drives?_call hc, hp]; rfl
    have hn : s.drives? (.renewal s.renewals.length) = none := by simp [drives?]
    obtain ⟨hd, he⟩ := hs.drives_eq
    refine .handed rfl hq hn ?_
    refine (drives?_moveCall q (by exact hc)).trans ?_
    rw [hd, drives?_count, drives?_record, drives?_addRenewal, he, hr]
  | @walkRenewal a r renewal p lines hr hw =>
    refine .same rfl ?_
    rw [drives?_moveRenewal (s := s.record lines) p hr, hw.drives_eq, ← drives?_renewal hr]
    simp
  | @closeRenewal r renewal o ending hr hp =>
    have hq : s.drives? (.renewal r) = some (.background, renewal.flight) := by
      simp [drives?_renewal hr, Renewal.drives?, hp]
    refine .written hq rfl ?_
    rw [drives?_moveRenewal (s := s.writeFlight _ o) _ hr, drives?_writeFlight]
    rfl
  | @countRenewal r renewal ending hr hp =>
    have hc : (s.countEnding ending).renewals[r]? = some renewal := by cases ending <;> exact hr
    have hq : s.drives? (.renewal r) = none := by simp [drives?_renewal hr, Renewal.drives?, hp]
    refine .same (by cases ending <;> rfl) ?_
    rw [drives?_moveRenewal _ hc, drives?_countEnding]
    exact Function.update_eq_self_iff.mpr hq.symm

/-! ## Drivers and flights match -/

/-- The flights without an outcome and the drivers match one to one, role by role. -/
structure Matched (s : State) : Prop where
  pending (q : Requester) (m : Mode) (f : FlightId) : s.drives? q = some (m, f) →
    ∃ flight : Flight, s.flights[f]? = some flight ∧ flight.mode = m ∧ flight.outcome = none
  unique (q r : Requester) (m n : Mode) (f : FlightId) :
    s.drives? q = some (m, f) → s.drives? r = some (n, f) → q = r
  driven (f : FlightId) (flight : Flight) : s.flights[f]? = some flight → flight.outcome = none →
    ∃ q, s.drives? q = some (flight.mode, f)

theorem Matched.lt_length (hs : Matched s) {q : Requester} {m : Mode} {f : FlightId}
    (hq : s.drives? q = some (m, f)) : f < s.flights.length := by
  obtain ⟨flight, hf, -⟩ := hs.pending q m f hq
  exact (List.getElem?_eq_some_iff.mp hf).1

/-- A call that is about to write has an open flight of its own. -/
theorem Matched.closing {c : CallId} {call : Call} {f : FlightId} {o : Outcome} {exit : Exit}
    {flight : Flight} (hs : Matched s) (hc : s.calls[c]? = some call)
    (hp : call.point = .closing f o exit) (hf : s.flights[f]? = some flight) :
    flight.mode = .synchronous ∧ flight.outcome = none := by
  obtain ⟨flight', hf', hm, ho⟩ := hs.pending _ _ f (drives?_closing hc hp)
  cases hf.symm.trans hf'
  exact ⟨hm, ho⟩

/-- What a driver writes is the outcome of its flight. -/
theorem Matched.outcome_written {q : Requester} {m : Mode} {f : FlightId} {o : Outcome}
    (hs : Matched s) (hq : s.drives? q = some (m, f))
    (hf : s'.flights = s.flights.modify f (·.write o)) : s'.outcome? f = some o := by
  obtain ⟨flight, hfl, -, ho⟩ := hs.pending q m f hq
  simp [outcome?, hf, hfl, Flight.outcome_write_of_none ho]

theorem Matched.opened {q : Requester} {m : Mode} {context : Context} (hs : Matched s)
    (hf : s'.flights = s.flights ++ [{ mode := m, context := context }])
    (hq : s.drives? q = none)
    (hd : s'.drives? = Function.update s.drives? q (some (m, s.flights.length))) : Matched s' := by
  have hself : s'.drives? q = some (m, s.flights.length) := by rw [hd, Function.update_self]
  have hother : ∀ r, r ≠ q → s'.drives? r = s.drives? r := fun r hr => by
    rw [hd, Function.update_of_ne hr]
  -- a driver of the new flight is the new driver, since the others drive older flights
  have hnew : ∀ r n f, s'.drives? r = some (n, f) → r ≠ q → f ≠ s.flights.length := by
    intro r n f hr hne
    rw [hother r hne] at hr
    exact Nat.ne_of_lt (hs.lt_length hr)
  refine ⟨fun r n f hr => ?_, fun r r' n n' f hr hr' => ?_, fun f flight hfl ho => ?_⟩
  · by_cases hrq : r = q
    · subst hrq
      obtain ⟨rfl, rfl⟩ : m = n ∧ s.flights.length = f := by simpa [hself] using hr
      exact ⟨{ mode := m, context := context }, by simp [hf], rfl, rfl⟩
    · have hne := hnew r n f hr hrq
      rw [hother r hrq] at hr
      obtain ⟨flight, hfl, hm, ho⟩ := hs.pending r n f hr
      exact ⟨flight, by simp [hf, getElem?_concat, hne, hfl], hm, ho⟩
  · by_cases hrq : r = q
    · by_cases hrq' : r' = q
      · exact hrq.trans hrq'.symm
      · subst hrq
        obtain ⟨-, rfl⟩ : m = n ∧ s.flights.length = f := by simpa [hself] using hr
        exact absurd rfl (hnew r' n' _ hr' hrq')
    · by_cases hrq' : r' = q
      · subst hrq'
        obtain ⟨-, rfl⟩ : m = n' ∧ s.flights.length = f := by simpa [hself] using hr'
        exact absurd rfl (hnew r n _ hr hrq)
      · rw [hother r hrq] at hr
        rw [hother r' hrq'] at hr'
        exact hs.unique r r' n n' f hr hr'
  · rw [hf, getElem?_concat] at hfl
    split at hfl
    next he => cases hfl; exact ⟨q, by rw [hself, he]⟩
    next =>
      obtain ⟨r, hr⟩ := hs.driven f flight hfl ho
      have hrq : r ≠ q := by rintro rfl; simp [hq] at hr
      exact ⟨r, by rw [hother r hrq, hr]⟩

theorem Matched.written {q : Requester} {m : Mode} {f : FlightId} {o : Outcome} (hs : Matched s)
    (hq : s.drives? q = some (m, f)) (hf : s'.flights = s.flights.modify f (·.write o))
    (hd : s'.drives? = Function.update s.drives? q none) : Matched s' := by
  have hback : ∀ r n g, s'.drives? r = some (n, g) → r ≠ q ∧ s.drives? r = some (n, g) := by
    intro r n g hr
    by_cases hrq : r = q
    · subst hrq; simp [hd] at hr
    · exact ⟨hrq, by rwa [hd, Function.update_of_ne hrq] at hr⟩
  refine ⟨fun r n g hr => ?_, fun r r' n n' g hr hr' => ?_, fun g flight hg ho => ?_⟩
  · obtain ⟨hrq, hr⟩ := hback r n g hr
    obtain ⟨flight, hg, hm, ho⟩ := hs.pending r n g hr
    have hne : f ≠ g := by rintro rfl; exact hrq (hs.unique r q n m f hr hq)
    exact ⟨flight, by rw [hf, List.getElem?_modify_ne _ _ hne, hg], hm, ho⟩
  · exact hs.unique r r' n n' g (hback r n g hr).2 (hback r' n' g hr').2
  · by_cases hne : f = g
    · subst hne
      obtain ⟨before, hb, rfl⟩ : ∃ before, s.flights[f]? = some before ∧ before.write o = flight := by
        simpa [hf] using hg
      cases hbo : before.outcome with
      | none => rw [Flight.outcome_write_of_none hbo] at ho; cases ho
      | some o' => rw [Flight.outcome_write_of_some hbo] at ho; cases ho
    · rw [hf, List.getElem?_modify_ne _ _ hne] at hg
      obtain ⟨r, hr⟩ := hs.driven g flight hg ho
      have hrq : r ≠ q := by
        rintro rfl
        rw [hq] at hr
        cases hr
        exact hne rfl
      exact ⟨r, by rw [hd, Function.update_of_ne hrq, hr]⟩

theorem Matched.handed {q r : Requester} {m : Mode} {f : FlightId} (hs : Matched s)
    (hf : s'.flights = s.flights) (hq : s.drives? q = some (m, f)) (hr : s.drives? r = none)
    (hd : s'.drives? = Function.update (Function.update s.drives? r (some (m, f))) q none) :
    Matched s' := by
  have hrq : r ≠ q := by rintro rfl; simp [hq] at hr
  have hnew : s'.drives? r = some (m, f) := by
    rw [hd, Function.update_of_ne hrq, Function.update_self]
  have hback : ∀ x n g, s'.drives? x = some (n, g) →
      (x = r ∧ n = m ∧ g = f) ∨ (x ≠ q ∧ s.drives? x = some (n, g)) := by
    intro x n g hx
    by_cases hxq : x = q
    · subst hxq; simp [hd] at hx
    · by_cases hxr : x = r
      · subst hxr
        obtain ⟨rfl, rfl⟩ : m = n ∧ f = g := by simpa [hnew] using hx
        exact .inl ⟨rfl, rfl, rfl⟩
      · exact .inr ⟨hxq, by rwa [hd, Function.update_of_ne hxq, Function.update_of_ne hxr] at hx⟩
  refine ⟨fun x n g hx => ?_, fun x y n n' g hx hy => ?_, fun g flight hg ho => ?_⟩
  · rw [hf]
    rcases hback x n g hx with ⟨-, rfl, rfl⟩ | ⟨-, hx⟩
    · exact hs.pending q n g hq
    · exact hs.pending x n g hx
  · rcases hback x n g hx with ⟨rfl, rfl, rfl⟩ | ⟨hxq, hx⟩
    · rcases hback y n' g hy with ⟨rfl, -⟩ | ⟨hyq, hy⟩
      · rfl
      · exact absurd (hs.unique y q n' n g hy hq) hyq
    · rcases hback y n' g hy with ⟨rfl, rfl, rfl⟩ | ⟨-, hy⟩
      · exact absurd (hs.unique x q n n' g hx hq) hxq
      · exact hs.unique x y n n' g hx hy
  · rw [hf] at hg
    obtain ⟨x, hx⟩ := hs.driven g flight hg ho
    by_cases hxq : x = q
    · subst hxq
      rw [hq] at hx
      cases hx
      exact ⟨r, hnew⟩
    · have hxr : x ≠ r := by rintro rfl; simp [hr] at hx
      exact ⟨x, by rw [hd, Function.update_of_ne hxq, Function.update_of_ne hxr, hx]⟩

theorem Shifts.matched (h : Shifts s s') (hs : Matched s) : Matched s' := by
  cases h with
  | same hf hd => exact ⟨hf ▸ hd ▸ hs.pending, hd ▸ hs.unique, hf ▸ hd ▸ hs.driven⟩
  | opened hf hq hd => exact hs.opened hf hq hd
  | written hq hf hd => exact hs.written hq hf hd
  | handed hf hq hr hd => exact hs.handed hf hq hr hd

/-- A call that drives a flight keeps it until the flight has an outcome. -/
theorem Shifts.keeps (h : Shifts s s') (hs : Matched s) {q : Requester} {f : FlightId}
    (hq : s.drives? q = some (.synchronous, f)) :
    s'.drives? q = some (.synchronous, f) ∨ ∃ o, s'.outcome? f = some o := by
  cases h with
  | same _ hd => exact .inl (hd ▸ hq)
  | @opened r m context _ hr hd =>
    have hne : q ≠ r := by rintro rfl; simp [hr] at hq
    exact .inl (by rw [hd, Function.update_of_ne hne, hq])
  | @written r m g o hr hf hd =>
    by_cases hqr : q = r
    · subst hqr
      obtain ⟨rfl, rfl⟩ : Mode.synchronous = m ∧ f = g := by simpa [hq] using hr
      exact .inr ⟨o, hs.outcome_written hq hf⟩
    · exact .inl (by rw [hd, Function.update_of_ne hqr, hq])
  | @handed q' r g _ hq' hr hd =>
    have hne : q ≠ r := by rintro rfl; simp [hr] at hq
    have hne' : q ≠ q' := by rintro rfl; simp [hq] at hq'
    exact .inl (by rw [hd, Function.update_of_ne hne', Function.update_of_ne hne, hq])

end State

/-- In a reachable state drivers and flights match. -/
theorem Reachable.matched {t : Timing} {s : State} (hr : Reachable t s) : s.Matched := by
  refine hr.induct ⟨?_, ?_, ?_⟩ fun a x y _ hm hx => hm.shifts.matched hx
  · intro q m f hq
    cases q <;> simp [State.drives?] at hq
  · intro q r m n f hq
    cases q <;> simp [State.drives?] at hq
  · intro f flight hf
    simp at hf

end BearerTokens.Cache
