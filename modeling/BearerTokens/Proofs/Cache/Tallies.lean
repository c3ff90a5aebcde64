import BearerTokens.Proofs.Cache.Balance
import BearerTokens.Proofs.Cache.History

/-! # What the counters say of the calls

Each decision of a call is counted once, as a hit, a wait or an acquisition.  A wait ends in one way: the call is told
the outcome, sees that it is cancelled, decides again since the flight was given up, or is dropped.  Few calls
never decide, and their turns are listed with those of the waits.  Over any row of actions the counters
agree with these turns and with the calls that are still under way.
-/

namespace BearerTokens.Cache

inductive Turn where
  /-- It answers the outcome of the flight that it waited for. -/
  | told
  /-- It waited and sees that it is cancelled. -/
  | withdrawn
  /-- It waited for a flight that was given up, and decides again. -/
  | again
  /-- It is dropped while it waits. -/
  | left
  /-- It is refused, or sees that it is cancelled before it decides. -/
  | declined
  /-- It is dropped before it decides. -/
  | skipped
deriving DecidableEq

namespace Call

@[simp] def isDeciding (call : Call) : Bool :=
  match call.point with
  | .deciding => true
  | _ => false

@[simp] def isOpening (call : Call) : Bool :=
  match call.point with
  | .opening _ => true
  | _ => false

@[simp] def isWaiting (call : Call) : Bool :=
  match call.point with
  | .waiting _ => true
  | _ => false

@[simp] def isDropped (call : Call) : Bool :=
  match call.point with
  | .done .dropped => true
  | _ => false

/-- A thread whose call is over. -/
@[simp] def isReleased (call : Call) : Bool :=
  match call.style, call.point with
  | .blocking, .done _ => true
  | _, _ => false

/-- The failure is counted and not written. -/
@[simp] def isFailing (call : Call) : Bool :=
  match call.point with
  | .closing _ (.failed _) _ => true
  | _ => false

end Call

def fails : Mode → Outcome → Bool
  | .synchronous, .failed _ => true
  | _, _ => false

def isFailure (flight : Flight) : Bool := flight.outcome.any (fails flight.mode)

@[simp] def Happening.isDecision : Happening → Bool
  | .decided .. => true
  | _ => false

namespace State

def turn? (s : State) : Action → Option Turn
  | .call _ style inside hasRuntime => (style.refusal? inside hasRuntime).map fun _ => .declined
  | .resume c =>
    match s.calls[c]? with
    | some { point := .waiting f, .. } =>
      if s.outcome? f = some .cancelled then some .again else some .told
    | _ => none
  | .withdraw c =>
    match s.calls[c]? with
    | some { point := .waiting _, .. } => some .withdrawn
    | some { point := .deciding, .. } => some .declined
    | _ => none
  | .drop c =>
    match s.calls[c]? with
    | some { point := .waiting _, .. } => some .left
    | some { point := .deciding, .. } => some .skipped
    | _ => none
  | _ => none

def turns (t : Timing) : State → List Action → List Turn
  | _, [] => []
  | s, a :: actions =>
    match s.step t a with
    | some x => (s.turn? a).toList ++ turns t x actions
    | none => []

def acquired (s : State) : Nat := s.flights.countP (·.mode == .synchronous)

def planned (s : State) : Nat := s.history.countP Happening.isDecision

end State

variable {t : Timing} {s s' : State} {c : CallId} {call : Call} {ts new : List Turn} {a : Action}
  {p : Call.Point} {lines : List Happening} {tally : Metrics → Metrics}

/-! ## What one action counts -/

structure Call.Tallied (before after : Call) (new : List Turn) (lines : List Happening)
    (tally : Metrics → Metrics) (opened : Nat) : Prop where
  waits (m : Metrics) : (tally m).waits + before.isWaiting.toNat = m.waits + after.isWaiting.toNat +
    new.count .told + new.count .withdrawn + new.count .again + new.count .left
  decided (m : Metrics) : lines.countP Happening.isDecision +
      (m.hits + m.waits + m.acquisitions + before.isOpening.toNat) =
    (tally m).hits + (tally m).waits + (tally m).acquisitions + after.isOpening.toNat
  deciding : before.isDeciding.toNat + new.count .again = lines.countP Happening.isDecision +
    after.isDeciding.toNat + new.count .declined + new.count .skipped
  opening (m : Metrics) : opened + m.acquisitions + before.isOpening.toNat =
    (tally m).acquisitions + after.isOpening.toNat
  dropped : before.isDropped.toNat + new.count .left + new.count .skipped ≤ after.isDropped.toNat
  released : before.isReleased.toNat + new.count .declined ≤ after.isReleased.toNat

theorem aside_undecided (hl : ∀ line ∈ lines, line.Aside) : lines.countP Happening.isDecision = 0 := by
  apply List.countP_eq_zero.mpr
  intro line hmem hd
  cases line with
  | decided => exact hl _ hmem
  | _ => cases hd

theorem Call.Walks.tallied (hw : call.Walks t s c a p lines tally) (hc : s.calls[c]? = some call) :
    call.Tallied { call with point := p } (s.turn? a).toList lines tally 0 := by
  have hlines := aside_undecided hw.aside
  obtain ⟨context, style, inside, hasRuntime, cancelled, point⟩ := call
  cases hw with
  | withdraw _ hp =>
    rcases hp with hp | hp <;> cases hp <;> constructor <;> simp [State.turn?, hc]
  | dropIdle hs hp =>
    cases hs
    rcases hp with hp | ⟨f, hp⟩ <;> cases hp <;> constructor <;> simp [State.turn?, hc]
  | withdrawEarly _ hs hp =>
    cases hs
    cases hp
    constructor <;> simp [State.turn?, hc]
  | again hp ho =>
    cases hp
    constructor <;> simp [State.turn?, hc, ho]
  | share hp ho hn =>
    cases hp
    constructor <;> simp [State.turn?, hc, ho, hn]
  | enter hp | ask hp | answered hp | unfit hp | refused hp | crash hp | withdrawWaiting _ hp | finish hp
  | drop _ hp =>
    cases hp
    constructor <;> simp [State.turn?, hc, Nat.add_assoc]

theorem Call.tallied_close {f : FlightId} {o : Outcome} {exit : Exit} (hp : call.point = .closing f o exit) :
    call.Tallied { call with point := .done exit } [] [.wrote f o] id 0 := by
  constructor <;> simp [hp]

theorem Renewal.Starts.tallied {f source : FlightId} {pass : Pass} {r : RenewalId} {renewal : Renewal}
    {x : Renewal.Point} (hs : renewal.Starts t c call r a x p lines)
    (hp : call.point = .launching f source pass) :
    call.Tallied { call with point := p } (s.turn? a).toList lines
      (fun m => { m with started := m.started + 1 }) 0 := by
  have hlines := aside_undecided hs.aside
  cases hs with
  | hosted => constructor <;> simp [hp, State.turn?]
  | alone => constructor <;> simp [hp, hlines, State.turn?]

theorem Renewal.Walks.turn?_eq {r : RenewalId} {renewal : Renewal} {x : Renewal.Point}
    (hw : renewal.Walks t r a x lines) : s.turn? a = none := by
  cases hw <;> rfl

theorem Call.Walks.fails_tally (hw : call.Walks t s c a p lines tally) (m : Metrics) :
    (tally m).failures + call.isFailing.toNat =
      m.failures + (Call.isFailing { call with point := p }).toNat := by
  obtain ⟨context, style, inside, hasRuntime, cancelled, point⟩ := call
  cases hw with
  | withdraw _ hp => rcases hp with hp | hp <;> cases hp <;> rfl
  | dropIdle _ hp => rcases hp with hp | ⟨f, hp⟩ <;> cases hp <;> rfl
  | enter hp | ask hp | answered hp | unfit hp | refused hp | crash hp | withdrawEarly _ _ hp
  | withdrawWaiting _ hp | again hp | share hp | finish hp | drop _ hp => cases hp; rfl

theorem Decision.tallied (d : Decision) (now : Instant) (hp : call.point = .deciding) :
    call.Tallied { call with point := d.leads } [] [.decided c now d] d.counts
      (d.opens?.toList.count .synchronous) := by
  cases d <;> constructor <;> simp [hp, counts, leads, opens?] <;> omega

namespace State

/-! ## The calls -/

/-- The counters when the calls have taken these turns. -/
structure Served (s : State) (ts : List Turn) : Prop where
  waits : s.metrics.waits = s.calls.countP Call.isWaiting + ts.count .told + ts.count .withdrawn +
    ts.count .again + ts.count .left
  planned : s.planned =
    s.metrics.hits + s.metrics.waits + s.metrics.acquisitions + s.calls.countP Call.isOpening
  calls : s.calls.length + ts.count .again =
    s.planned + s.calls.countP Call.isDeciding + ts.count .declined + ts.count .skipped
  acquired : s.acquired = s.metrics.acquisitions + s.calls.countP Call.isOpening
  dropped : ts.count .left + ts.count .skipped ≤ s.calls.countP Call.isDropped
  released : ts.count .declined ≤ s.calls.countP Call.isReleased

theorem planned_append (h : s'.history = s.history ++ lines) :
    s'.planned = s.planned + lines.countP Happening.isDecision := by
  rw [planned, planned, h, List.countP_append]

theorem acquired_writeFlight (f : FlightId) (o : Outcome) : (s.writeFlight f o).acquired = s.acquired :=
  countP_modify_of_eq (fun flight : Flight => flight.mode == .synchronous) (·.write o) (fun _ => rfl)
    s.flights f

theorem acquired_follow (style : Style) (context : Context) (d : Decision) :
    (s.follow style c context d).acquired = s.acquired + d.opens?.toList.count .synchronous := by
  rw [acquired, acquired, follow_flights, List.countP_append]
  cases d <;> rfl

/-- What an action counts of the call that takes it. -/
theorem Served.turn {opened : Nat} (hs : s.Served ts) (hc : s.calls[c]? = some call)
    (ht : call.Tallied { call with point := p } new lines tally opened)
    (hcalls : s'.calls = (s.moveCall c p).calls) (hm : s'.metrics = tally s.metrics)
    (hh : s'.history = s.history ++ lines) (hf : s'.acquired = s.acquired + opened) :
    s'.Served (ts ++ new) := by
  have hcount (q : Call → Bool) := countP_modify q (fun call => { call with point := p }) hc
  have hwaiting := hcount Call.isWaiting
  have hopening := hcount Call.isOpening
  have hdeciding := hcount Call.isDeciding
  have hdropped := hcount Call.isDropped
  have hreleased := hcount Call.isReleased
  have hplanned := planned_append hh
  have hwaits := ht.waits s.metrics
  have hdecided := ht.decided s.metrics
  have hopened := ht.opening s.metrics
  rw [← hm] at hwaits hdecided hopened
  obtain ⟨-, -, htdeciding, -, htdropped, htreleased⟩ := ht
  obtain ⟨swaits, splanned, scalls, sacquired, sdropped, sreleased⟩ := hs
  constructor <;> simp only [hcalls, moveCall, List.count_append, List.length_modify] <;> omega

/-- An action that leaves all calls at their points counts nothing of them. -/
theorem Served.stay (hs : s.Served ts)
    (hcalls : ∀ q : Call → Bool, (∀ call : Call, q { call with cancelled := true } = q call) →
      s'.calls.countP q = s.calls.countP q)
    (hlength : s'.calls.length = s.calls.length)
    (hm : s'.metrics.hits = s.metrics.hits ∧ s'.metrics.waits = s.metrics.waits ∧
      s'.metrics.acquisitions = s.metrics.acquisitions)
    (hh : s'.history = s.history ++ lines) (hl : lines.countP Happening.isDecision = 0)
    (hf : s'.acquired = s.acquired) : s'.Served ts := by
  have hplanned := planned_append hh
  have hwaiting := hcalls Call.isWaiting fun _ => rfl
  have hopening := hcalls Call.isOpening fun _ => rfl
  have hdeciding := hcalls Call.isDeciding fun _ => rfl
  have hdropped := hcalls Call.isDropped fun _ => rfl
  have hreleased := hcalls Call.isReleased fun _ => rfl
  obtain ⟨swaits, splanned, scalls, sacquired, sdropped, sreleased⟩ := hs
  constructor <;> omega

theorem Served.added {context : Context} {style : Style} {inside hasRuntime : Bool} (hs : s.Served ts) :
    (s.call context style inside hasRuntime).Served
      (ts ++ (s.turn? (.call context style inside hasRuntime)).toList) := by
  obtain ⟨swaits, splanned, scalls, sacquired, sdropped, sreleased⟩ := hs
  rw [State.planned] at splanned scalls
  rw [State.acquired] at sacquired
  cases h : style.refusal? inside hasRuntime with
  | none =>
    constructor <;> simp [State.call, turn?, h, State.planned, State.acquired] <;> omega
  | some fault =>
    cases style with
    | async => cases h
    | blocking => constructor <;> simp [State.call, turn?, h, State.planned, State.acquired] <;> omega

theorem Served.step (hs : s.Served ts) (hm : Moves t s a s') : s'.Served (ts ++ (s.turn? a).toList) := by
  cases hm with
  | call => exact hs.added
  | @cancel c =>
    rw [show s.turn? (.cancel c) = none from rfl, Option.toList_none, List.append_nil]
    have hlength : (s.cancel c).calls.length = s.calls.length := List.length_modify ..
    exact hs.stay (fun q hq => countP_modify_of_eq q _ hq s.calls c) hlength ⟨rfl, rfl, rfl⟩
      (List.append_nil _).symm rfl rfl
  | @decide c call now holding d hc hp =>
    refine hs.turn hc (d.tallied now hp) ?_ (follow_metrics ..) (follow_history ..) (acquired_follow ..)
    rw [follow_calls]
    rfl
  | walk hc hw => exact hs.turn hc (hw.tallied hc) rfl rfl rfl rfl
  | @close c call f o exit hc hp =>
    exact hs.turn hc (Call.tallied_close hp) rfl rfl rfl (acquired_writeFlight f o)
  | launch hc hp _ hstart => exact hs.turn hc (hstart.tallied hp) rfl rfl rfl rfl
  | walkRenewal hr hw =>
    rw [hw.turn?_eq, Option.toList_none, List.append_nil]
    exact hs.stay (fun _ _ => rfl) rfl ⟨rfl, rfl, rfl⟩ rfl (aside_undecided hw.aside) rfl
  | @closeRenewal r renewal o =>
    rw [show s.turn? (.closeRenewal r) = none from rfl, Option.toList_none, List.append_nil]
    have hacquired := acquired_writeFlight (s := s) renewal.flight o
    exact hs.stay (fun _ _ => rfl) rfl ⟨rfl, rfl, rfl⟩ rfl rfl hacquired
  | @countRenewal r renewal ending =>
    rw [show s.turn? (.countRenewal r) = none from rfl, Option.toList_none, List.append_nil]
    cases ending with
    | succeeded | fellBack | abandoned => exact hs.stay (fun _ _ => rfl) rfl ⟨rfl, rfl, rfl⟩ rfl rfl rfl

theorem Served.run {actions : List Action} (hs : s.Served ts) (h : s.run? t actions = some s') :
    s'.Served (ts ++ turns t s actions) := by
  induction actions generalizing s ts with
  | nil =>
    cases h
    rwa [turns, List.append_nil]
  | cons a actions ih =>
    rw [run?_cons] at h
    obtain ⟨x, hx, h⟩ := Option.bind_eq_some_iff.mp h
    have hrest := ih (hs.step (step_moves hx)) h
    simpa [turns, hx] using hrest

/-! ## Failures -/

/-- Every failure is counted once, by the call that has written it or is about to. -/
def Failures (s : State) : Prop :=
  s.metrics.failures = s.flights.countP isFailure + s.calls.countP Call.isFailing

/-- A call that goes on counts the failures that it comes to, and writes those that it counted. -/
theorem Failures.turn (hs : s.Failures) (wrote : Nat) (hc : s.calls[c]? = some call)
    (hcalls : s'.calls = (s.moveCall c p).calls)
    (hf : s'.flights.countP isFailure = s.flights.countP isFailure + wrote)
    (hm : s'.metrics.failures + call.isFailing.toNat =
      s.metrics.failures + wrote + (Call.isFailing { call with point := p }).toNat) : s'.Failures := by
  have hcount := countP_modify Call.isFailing (fun call => { call with point := p }) hc
  unfold Failures at hs ⊢
  simp only [hcalls, moveCall]
  omega

theorem countP_writeFlight {q : Requester} {m : Mode} {f : FlightId} (hs : s.Matched)
    (hq : s.drives? q = some (m, f)) (o : Outcome) : (s.writeFlight f o).flights.countP isFailure =
      s.flights.countP isFailure + (fails m o).toNat := by
  obtain ⟨flight, hf, rfl, ho⟩ := hs.pending q m f hq
  have hcount := countP_modify isFailure (·.write o) hf
  have hbefore : isFailure flight = false := by simp [isFailure, ho]
  have hafter : isFailure (flight.write o) = fails flight.mode o := by
    simp [isFailure, Flight.write, ho]
  rwa [hbefore, hafter, Bool.toNat_false, Nat.add_zero] at hcount

theorem Failures.step (hs : s.Failures) (hmatched : s.Matched) (hm : Moves t s a s') : s'.Failures := by
  cases hm with
  | @call context style inside hasRuntime =>
    have hadd (x : Call) (hx : x.isFailing = false) : s.metrics.failures =
        s.flights.countP isFailure + (s.calls ++ [x]).countP Call.isFailing := by
      rw [countP_concat, hx]
      exact hs
    rw [State.call]
    cases style.refusal? inside hasRuntime <;> exact hadd _ rfl
  | @cancel c =>
    have hcount := countP_modify_of_eq Call.isFailing (fun call => { call with cancelled := true })
      (fun _ => rfl) s.calls c
    exact hs.trans (congrArg _ hcount.symm)
  | @decide c call now holding d hc hp =>
    have hflights : (d.opens?.map fun m => ({ mode := m, context := call.context } : Flight)).toList.countP
        isFailure = 0 := by cases d <;> rfl
    refine Failures.turn (p := d.leads) hs 0 hc ?_ ?_ ?_
    · rw [follow_calls]
      rfl
    · rw [follow_flights, List.countP_append, hflights]
      rfl
    · rw [follow_metrics]
      cases d <;> simp [Decision.counts, Decision.leads, record, hp]
  | walk hc hw => exact hs.turn 0 hc rfl rfl (hw.fails_tally s.metrics)
  | @close c call f o exit hc hp =>
    refine hs.turn _ hc rfl (countP_writeFlight hmatched (drives?_closing hc hp) o) ?_
    cases o <;> simp [hp, fails, writeFlight, moveCall, record]
  | launch hc hp _ hstart =>
    refine hs.turn 0 hc rfl rfl ?_
    cases hstart <;> simp [hp, State.count, record, moveCall]
  | walkRenewal hr hw => exact hs
  | @closeRenewal r renewal o ending hr hp =>
    have hq : s.drives? (.renewal r) = some (.background, renewal.flight) := by
      simp [drives?_renewal hr, Renewal.drives?, hp]
    exact hs.trans (congrArg (· + _) (countP_writeFlight hmatched hq o).symm)
  | @countRenewal r renewal ending =>
    cases ending with
    | succeeded | fellBack | abandoned => exact hs

end State

theorem Reachable.failures (hr : Reachable t s) : s.Failures :=
  hr.induct rfl fun _ _ _ hx hm ih => ih.step hx.matched hm

/-! ## Calls that have returned -/

namespace State

/-- The counters of a row when all its calls have returned, by the turns that they took. -/
structure Returned (s : State) (ts : List Turn) : Prop where
  calls : s.metrics.hits + s.metrics.acquisitions + (ts.count .told + ts.count .withdrawn) +
    ts.count .declined = s.calls.length
  waits : s.metrics.waits = ts.count .told + ts.count .withdrawn + ts.count .again
  /-- Each flight that is given up under a wait brings one more decision. -/
  planned : s.planned + ts.count .declined = s.calls.length + ts.count .again
  failures : s.metrics.failures = s.flights.countP isFailure
  acquired : s.acquired = s.metrics.acquisitions
  /-- A task always decides. -/
  tasks : (∀ call ∈ s.calls, call.style = .async) →
    s.metrics.hits + s.metrics.acquisitions + (ts.count .told + ts.count .withdrawn) = s.calls.length

/-- Once every call of a row has returned, each is counted once as a hit, as an acquisition, or among the waits that told
it what to answer, but for the threads that never decided. -/
theorem returned_tallies {actions : List Action} (h : State.run? t {} actions = some s)
    (hall : ∀ call ∈ s.calls, ∃ answer, call.point = .done (.returned answer)) :
    s.Returned (turns t {} actions) := by
  have hstart : Served {} [] := ⟨rfl, rfl, rfl, rfl, Nat.le_refl _, Nat.le_refl _⟩
  obtain ⟨swaits, splanned, scalls, sacquired, sdropped, sreleased⟩ := hstart.run h
  have hnone (q : Call → Bool) (hq : ∀ call : Call, ∀ answer, call.point = .done (.returned answer) →
      q call = false) : s.calls.countP q = 0 := by
    apply List.countP_eq_zero.mpr
    intro call hmem
    obtain ⟨answer, hp⟩ := hall call hmem
    simp [hq call answer hp]
  have hwaiting := hnone Call.isWaiting fun call answer hp => by simp [hp]
  have hopening := hnone Call.isOpening fun call answer hp => by simp [hp]
  have hdeciding := hnone Call.isDeciding fun call answer hp => by simp [hp]
  have hdropped := hnone Call.isDropped fun call answer hp => by simp [hp]
  have hfailing := hnone Call.isFailing fun call answer hp => by simp [hp]
  have hfailures : s.Failures := Reachable.failures ⟨actions, h⟩
  rw [Failures, hfailing] at hfailures
  simp only [List.nil_append] at swaits splanned scalls sacquired sdropped sreleased
  refine ⟨by omega, by omega, by omega, hfailures, by omega, fun htasks => ?_⟩
  have hreleased : s.calls.countP Call.isReleased = 0 := by
    apply List.countP_eq_zero.mpr
    intro call hmem
    simp [htasks call hmem]
  omega

end State

/-- The first call is cancelled while two wait.  One of these is cancelled too, the other acquires and fails, and a
fourth call shares the failure.  A fifth call acquires a token that the sixth is served. -/
def talliedRow : List Action :=
  [.call {} .async false true, .decide 0 ⟨0⟩, .enter 0, .call {} .async false true, .decide 1 ⟨0⟩,
    .call {} .async false true, .decide 2 ⟨0⟩, .cancel 0, .withdraw 0, .close 0, .cancel 2, .withdraw 2,
    .resume 1, .decide 1 ⟨0⟩, .enter 1, .ask 1, .call {} .async false true, .decide 3 ⟨0⟩,
    .answer 1 (.error (.unavailable "down")), .close 1, .resume 3,
    .call {} .async false true, .decide 4 ⟨0⟩, .enter 4, .ask 4,
    .answer 4 (.ok (.ofText "T1" ⟨600000000000⟩)), .close 4, .call {} .async false true, .decide 5 ⟨0⟩]

theorem returned_tallies_talliedRow : ∃ s, State.run? {} {} talliedRow = some s ∧
    State.turns {} {} talliedRow = [.withdrawn, .again, .told] ∧
    s.Returned [.withdrawn, .again, .told] ∧ s.metrics.hits = 1 ∧ s.metrics.waits = 3 ∧
    s.metrics.acquisitions = 3 ∧ s.metrics.failures = 1 ∧ s.calls.length = 6 := by
  obtain ⟨s, h, hturns, ⟨answers, hpoints⟩, hcounts⟩ : ∃ s, State.run? {} {} talliedRow = some s ∧
      State.turns {} {} talliedRow = [.withdrawn, .again, .told] ∧
      (∃ answers : List (Except Fault String),
        s.calls.map (·.point) = answers.map fun answer => .done (.returned answer)) ∧
      s.metrics.hits = 1 ∧ s.metrics.waits = 3 ∧ s.metrics.acquisitions = 3 ∧
      s.metrics.failures = 1 ∧ s.calls.length = 6 :=
    ⟨_, rfl, rfl, ⟨[_, _, _, _, _, _], rfl⟩, rfl, rfl, rfl, rfl, rfl⟩
  have hall : ∀ call ∈ s.calls, ∃ answer, call.point = .done (.returned answer) := by
    intro call hmem
    have hpoint := List.mem_map_of_mem (f := (·.point)) hmem
    rw [hpoints] at hpoint
    obtain ⟨answer, -, hp⟩ := List.mem_map.mp hpoint
    exact ⟨answer, hp.symm⟩
  have hreturned := State.returned_tallies h hall
  rw [hturns] at hreturned
  exact ⟨s, h, hturns, hreturned, hcounts⟩

end BearerTokens.Cache
