import BearerTokens.Cache.Step
import BearerTokens.Proofs.Cache.Decision

/-! # What one action can do

A step of the cache is one of nine kinds.  In most of them a call, or a renewal, goes from one point
of its way to the next, adds lines to the history and counts something, and leaves all else alone.
What is shared changes in four: when a call decides, when a flight is written, and when a renewal
begins.  Each invariant is proved from this list and none unfolds the step function.
-/

namespace BearerTokens.Cache

/-- How a call goes on by itself: where to, what it adds to the history and what it counts. -/
inductive Call.Walks (t : Timing) (s : State) (c : CallId) (call : Call) :
    Action → Point → List Happening → (Metrics → Metrics) → Prop where
  | enter {f : FlightId} (hp : call.point = .opening f) :
      Walks t s c call (.enter c) (.calling f)
        ([Entry.span .synchronous call.context, .counted .synchronous .attempt].map .reported)
        fun m => { m with acquisitions := m.acquisitions + 1 }
  | ask {f : FlightId} (hp : call.point = .calling f) (hc : call.cancelled = false) :
      Walks t s c call (.ask c) (.asking f) [.asked (.call c) call.context] id
  | answered {f : FlightId} {token : Token} {pass : Pass} (hp : call.point = .asking f)
      (ht : Pass.ofToken? token t.lead = some pass) :
      Walks t s c call (.answer c (.ok token))
        (.closing f (.ready pass) (.returned (.ok pass.header)))
        [.answered (.call c) (.ok token), .reported (.counted .synchronous .success)] id
  /-- The token's renewal would leave the calendar. -/
  | unfit {f : FlightId} {token : Token} (hp : call.point = .asking f)
      (ht : Pass.ofToken? token t.lead = none) :
      Walks t s c call (.answer c (.ok token)) (.closing f .cancelled .crashed)
        [.answered (.call c) (.ok token), .reported (.counted .synchronous .success)] id
  | refused {f : FlightId} {fault : CredentialFault} (hp : call.point = .asking f) :
      Walks t s c call (.answer c (.error fault))
        (.closing f (.failed fault) (.returned (.error (.credential fault))))
        [.answered (.call c) (.error fault), .reported (.counted .synchronous .failure)]
        fun m => { m with failures := m.failures + 1 }
  | crash {f : FlightId} (hp : call.point = .asking f) :
      Walks t s c call (.crash c) (.closing f .cancelled .crashed) [] id
  | withdrawEarly (hc : call.cancelled = true) (hs : call.style = .blocking)
      (hp : call.point = .deciding) :
      Walks t s c call (.withdraw c) (.done (.returned (.error .cancelled))) [] id
  | withdrawWaiting {f : FlightId} (hc : call.cancelled = true) (hp : call.point = .waiting f) :
      Walks t s c call (.withdraw c) (.done (.returned (.error .cancelled))) [] id
  | withdraw {f : FlightId} (hc : call.cancelled = true)
      (hp : call.point = .calling f ∨ call.point = .asking f) :
      Walks t s c call (.withdraw c) (.closing f .cancelled (.returned (.error .cancelled)))
        [.reported (.counted .synchronous .cancelled)] id
  /-- The flight was given up, so the call decides again. -/
  | again {f : FlightId} (hp : call.point = .waiting f) (ho : s.outcome? f = some .cancelled) :
      Walks t s c call (.resume c) .deciding [] id
  | share {f : FlightId} {o : Outcome} (hp : call.point = .waiting f) (ho : s.outcome? f = some o)
      (hn : o ≠ .cancelled) : Walks t s c call (.resume c) (.done (.returned o.header)) [] id
  | finish {r : RenewalId} {exit : Exit} {renewal : Renewal} {ending : Ending}
      (hp : call.point = .settling r exit) (hr : s.renewals[r]? = some renewal)
      (he : renewal.point = .settled ending) : Walks t s c call (.finish c) (.done exit) [] id
  | dropIdle (hs : call.style = .async)
      (hp : call.point = .deciding ∨ ∃ f, call.point = .waiting f) :
      Walks t s c call (.drop c) (.done .dropped) [] id
  | drop {f : FlightId} (hs : call.style = .async) (hp : call.point = .asking f) :
      Walks t s c call (.drop c) (.closing f .cancelled .dropped) [] id

inductive Renewal.Keeps (r : RenewalId) (renewal : Renewal) (now : Instant) (delay : Duration)
    (reason : Reason) (error : String) : Point → List Happening → Prop where
  | kept {pass : Pass} (hd : renewal.previous.deferred? now delay = some pass) :
      Keeps r renewal now delay reason error (.closing (.ready pass) .fellBack)
        [.kept r now reason, .reported (.fellBack reason),
          .reported (.warned renewal.context reason error)]
  | lost (hd : renewal.previous.deferred? now delay = none) :
      Keeps r renewal now delay reason error (.closing .cancelled .abandoned) []

inductive Renewal.Walks (t : Timing) (r : RenewalId) (renewal : Renewal) :
    Action → Point → List Happening → Prop where
  | begin (hp : renewal.point = .queued) :
      Walks t r renewal (.begin r) .calling
        ([Entry.span .background renewal.context, .counted .background .attempt].map .reported)
  | ask (hp : renewal.point = .calling) :
      Walks t r renewal (.askRenewal r) .asking [.asked (.renewal r) renewal.context]
  | answered {token : Token} {now : Instant} {pass : Pass} (hp : renewal.point = .asking)
      (ht : Pass.ofToken? token t.lead = some pass) :
      Walks t r renewal (.answerRenewal r (.ok token) now) (.closing (.ready pass) .succeeded)
        [.answered (.renewal r) (.ok token)]
  | unfit {token : Token} {now : Instant} (hp : renewal.point = .asking)
      (ht : Pass.ofToken? token t.lead = none) :
      Walks t r renewal (.answerRenewal r (.ok token) now) (.closing .cancelled .abandoned)
        [.answered (.renewal r) (.ok token)]
  | refused {fault : CredentialFault} {now : Instant} {p : Point} {lines : List Happening}
      (hp : renewal.point = .asking)
      (hk : renewal.Keeps r now t.retry .failure fault.message p lines) :
      Walks t r renewal (.answerRenewal r (.error fault) now) p
        (.answered (.renewal r) (.error fault) :: lines)
  | expire {now : Instant} {p : Point} {lines : List Happening} (hp : renewal.point = .asking)
      (hk : renewal.Keeps r now .zero .timeout timeoutText p lines) :
      Walks t r renewal (.expire r now) p lines
  | abandon (hp : renewal.point = .queued ∨ renewal.point = .asking) :
      Walks t r renewal (.abandon r) (.closing .cancelled .abandoned) []

/-- How a renewal begins when a call starts it: its first point, what the call does then, and the
lines about it. -/
inductive Renewal.Starts (t : Timing) (c : CallId) (call : Call) (r : RenewalId) (renewal : Renewal) :
    Action → Point → Call.Point → List Happening → Prop where
  | hosted (hh : call.hosted = true) :
      Starts t c call r renewal (.launch c) .queued
        (.done (.returned (.ok renewal.previous.header))) []
  /-- Without a runtime the call settles the renewal itself. -/
  | alone {now : Instant} {p : Point} {exit : Exit} {lines : List Happening}
      (hk : renewal.Keeps r now t.retry .noRuntime ConfigFault.noRuntime.message p lines)
      (he : exit = if (renewal.previous.deferred? now t.retry).isSome then
        .returned (.ok renewal.previous.header) else .crashed) (hh : call.hosted = false) :
      Starts t c call r renewal (.settle c now) p (.settling r exit) lines

namespace State

inductive Moves (t : Timing) (s : State) : Action → State → Prop where
  | call {context : Context} {style : Style} {inside hasRuntime : Bool} :
      Moves t s (.call context style inside hasRuntime) (s.call context style inside hasRuntime)
  | cancel {c : CallId} : Moves t s (.cancel c) (s.cancel c)
  | decide {c : CallId} {call : Call} {now : Instant} {holding : Holding} {d : Decision}
      (hc : s.calls[c]? = some call) (hp : call.point = .deciding)
      (hd : s.holding.Decides s.outcome? s.flights.length call.context now holding d)
      (hb : call.style = .blocking → call.cancelled = false) :
      Moves t s (.decide c now)
        (({ s with holding }.record [.decided c now d]).follow call.style c call.context d)
  | walk {a : Action} {c : CallId} {call : Call} {p : Call.Point} {lines : List Happening}
      {tally : Metrics → Metrics} (hc : s.calls[c]? = some call)
      (hw : call.Walks t s c a p lines tally) :
      Moves t s a (((s.record lines).count tally).moveCall c p)
  | close {c : CallId} {call : Call} {f : FlightId} {o : Outcome} {exit : Exit}
      (hc : s.calls[c]? = some call) (hp : call.point = .closing f o exit) :
      Moves t s (.close c) ((s.writeFlight f o).moveCall c (.done exit))
  | launch {a : Action} {c : CallId} {call : Call} {f source : FlightId} {pass : Pass}
      {renewal : Renewal} {p : Renewal.Point} {q : Call.Point} {lines : List Happening}
      (hc : s.calls[c]? = some call) (hp : call.point = .launching f source pass)
      (hr : renewal = { context := call.context, previous := pass, source, flight := f })
      (hs : renewal.Starts t c call s.renewals.length a p q lines) :
      Moves t s a
        (((({ s with renewals := s.renewals ++ [{ renewal with point := p }] } : State).record
          lines).count fun m => { m with started := m.started + 1 }).moveCall c q)
  | walkRenewal {a : Action} {r : RenewalId} {renewal : Renewal} {p : Renewal.Point}
      {lines : List Happening} (hr : s.renewals[r]? = some renewal)
      (hw : renewal.Walks t r a p lines) :
      Moves t s a ((s.record lines).moveRenewal r p)
  | closeRenewal {r : RenewalId} {renewal : Renewal} {o : Outcome} {ending : Ending}
      (hr : s.renewals[r]? = some renewal) (hp : renewal.point = .closing o ending) :
      Moves t s (.closeRenewal r) ((s.writeFlight renewal.flight o).moveRenewal r (.written ending))
  | countRenewal {r : RenewalId} {renewal : Renewal} {ending : Ending}
      (hr : s.renewals[r]? = some renewal) (hp : renewal.point = .written ending) :
      Moves t s (.countRenewal r) ((s.countEnding ending).moveRenewal r (.settled ending))

variable {t : Timing} {s s' : State}

theorem decideCall_moves {c : CallId} {now : Instant} (h : s.decideCall c now = some s') :
    Moves t s (.decide c now) s' := by
  unfold decideCall at h
  split at h
  next => cases h
  next context style inside hasRuntime cancelled hn hc =>
    cases h
    refine .decide hc rfl (Holding.decide_decides rfl) fun hblocking => ?_
    cases cancelled with
    | false => rfl
    | true => exact (hn hblocking rfl).elim
  next => cases h

theorem enterCall_moves {c : CallId} (h : s.enterCall c = some s') : Moves t s (.enter c) s' := by
  unfold enterCall at h
  split at h
  next hc => cases h; exact .walk hc (.enter rfl)
  next => cases h

theorem askCall_moves {c : CallId} (h : s.askCall c = some s') : Moves t s (.ask c) s' := by
  unfold askCall at h
  split at h
  next hc => cases h; exact .walk hc (.ask rfl rfl)
  next => cases h

theorem answerCall_moves {c : CallId} {answer : Answer} (h : s.answerCall t c answer = some s') :
    Moves t s (.answer c answer) s' := by
  unfold answerCall at h
  split at h
  next hc =>
    cases answer with
    | ok token =>
      simp only at h
      split at h
      next ht => cases h; simpa [report, record, count] using Moves.walk hc (.answered rfl ht)
      next ht => cases h; simpa [report, record, count] using Moves.walk hc (.unfit rfl ht)
    | error fault => cases h; simpa [report, record, count] using Moves.walk hc (.refused rfl)
  next => cases h

theorem crashCall_moves {c : CallId} (h : s.crashCall c = some s') : Moves t s (.crash c) s' := by
  unfold crashCall at h
  split at h
  next hc => cases h; simpa [record, count] using Moves.walk (t := t) hc (.crash rfl)
  next => cases h

theorem withdrawCall_moves {c : CallId} (h : s.withdrawCall c = some s') :
    Moves t s (.withdraw c) s' := by
  unfold withdrawCall at h
  split at h
  next hc => cases h; simpa [record, count] using Moves.walk (t := t) hc (.withdrawEarly rfl rfl rfl)
  next hc => cases h; simpa [record, count] using Moves.walk (t := t) hc (.withdrawWaiting rfl rfl)
  next hc => cases h; exact .walk hc (.withdraw rfl (.inl rfl))
  next hc => cases h; exact .walk hc (.withdraw rfl (.inr rfl))
  next => cases h

theorem closeCall_moves {c : CallId} (h : s.closeCall c = some s') : Moves t s (.close c) s' := by
  unfold closeCall at h
  split at h
  next hc => cases h; exact .close hc rfl
  next => cases h

theorem resumeCall_moves {c : CallId} (h : s.resumeCall c = some s') :
    Moves t s (.resume c) s' := by
  unfold resumeCall at h
  split at h
  next hc =>
    obtain ⟨o, ho, rfl⟩ := Option.map_eq_some_iff.mp h
    rw [Style.resumes_eq]
    by_cases hn : o = .cancelled
    · subst hn
      simpa [record, count] using Moves.walk (t := t) hc (.again rfl ho)
    · rw [if_neg hn]
      simpa [record, count] using Moves.walk (t := t) hc (.share rfl ho hn)
  next => cases h

theorem finishCall_moves {c : CallId} (h : s.finishCall c = some s') :
    Moves t s (.finish c) s' := by
  unfold finishCall at h
  split at h
  next hc =>
    split at h
    next hr => cases h; simpa [record, count] using Moves.walk (t := t) hc (.finish rfl hr rfl)
    next => cases h
  next => cases h

theorem dropCall_moves {c : CallId} (h : s.dropCall c = some s') : Moves t s (.drop c) s' := by
  unfold dropCall at h
  split at h
  next hc =>
    cases h
    simpa [record, count] using Moves.walk (t := t) hc (.dropIdle rfl (.inl rfl))
  next hc =>
    cases h
    simpa [record, count] using Moves.walk (t := t) hc (.dropIdle rfl (.inr ⟨_, rfl⟩))
  next hc => cases h; simpa [record, count] using Moves.walk (t := t) hc (.drop rfl rfl)
  next => cases h

/-- Keeping the previous pass is one way a renewal goes on. -/
theorem keepPrevious_keeps (r : RenewalId) (renewal : Renewal) (now : Instant) (delay : Duration)
    (reason : Reason) (error : String) : ∃ p lines,
      renewal.Keeps r now delay reason error p lines ∧
      s.keepPrevious r renewal now delay reason error = (s.record lines).moveRenewal r p := by
  unfold keepPrevious
  cases hd : renewal.previous.deferred? now delay with
  | some pass => exact ⟨_, _, .kept hd, by simp [report, record]⟩
  | none => exact ⟨_, _, .lost hd, by simp [record]⟩

theorem modify_concat {α : Type} (l : List α) (a : α) (f : α → α) :
    (l ++ [a]).modify l.length f = l ++ [f a] := by
  simp [List.modify_eq_take_drop]

theorem launchCall_moves {c : CallId} (h : s.launchCall c = some s') :
    Moves t s (.launch c) s' := by
  unfold launchCall at h
  split at h
  next call hc =>
    split at h
    next hp =>
      split at h
      next hh =>
        cases h
        simpa [startRenewal, record, count] using Moves.launch (t := t) hc hp rfl (.hosted hh)
      next => cases h
    next => cases h
  next => cases h

theorem settleCall_moves {c : CallId} {now : Instant} (h : s.settleCall t c now = some s') :
    Moves t s (.settle c now) s' := by
  unfold settleCall at h
  split at h
  next call hc =>
    split at h
    next f source pass hp =>
      split at h
      next => cases h
      next hh =>
        obtain ⟨p, lines, hk, he⟩ := keepPrevious_keeps
          (s := s.startRenewal { context := call.context, previous := pass, source, flight := f })
          s.renewals.length { context := call.context, previous := pass, source, flight := f } now
          t.retry .noRuntime ConfigFault.noRuntime.message
        simp only [he, Option.some.injEq] at h
        subst h
        simpa [startRenewal, record, count, moveRenewal, modify_concat] using
          Moves.launch (t := t) hc hp rfl (.alone hk rfl (Bool.eq_false_iff.mpr hh))
    next => cases h
  next => cases h

theorem beginRenewal_moves {r : RenewalId} (h : s.beginRenewal r = some s') :
    Moves t s (.begin r) s' := by
  unfold beginRenewal at h
  split at h
  next hr => cases h; exact .walkRenewal hr (.begin rfl)
  next => cases h

theorem askRenewal_moves {r : RenewalId} (h : s.askRenewal r = some s') :
    Moves t s (.askRenewal r) s' := by
  unfold askRenewal at h
  split at h
  next hr => cases h; exact .walkRenewal hr (.ask rfl)
  next => cases h

theorem answerRenewal_moves {r : RenewalId} {answer : Answer} {now : Instant}
    (h : s.answerRenewal t r answer now = some s') : Moves t s (.answerRenewal r answer now) s' := by
  unfold answerRenewal at h
  split at h
  next renewal hr =>
    split at h
    next hp =>
      cases answer with
      | ok token =>
        simp only at h
        split at h
        next ht => cases h; exact .walkRenewal hr (.answered hp ht)
        next ht => cases h; exact .walkRenewal hr (.unfit hp ht)
      | error fault =>
        obtain ⟨p, lines, hk, he⟩ := keepPrevious_keeps
          (s := s.record [.answered (.renewal r) (.error fault)]) r renewal now t.retry .failure
          fault.message
        simp only [he, Option.some.injEq] at h
        subst h
        simpa [record] using Moves.walkRenewal hr (.refused hp hk)
    next => cases h
  next => cases h

theorem expireRenewal_moves {r : RenewalId} {now : Instant}
    (h : s.expireRenewal r now = some s') : Moves t s (.expire r now) s' := by
  unfold expireRenewal at h
  split at h
  next renewal hr =>
    split at h
    next hp =>
      obtain ⟨p, lines, hk, he⟩ := keepPrevious_keeps (s := s) r renewal now .zero .timeout timeoutText
      simp only [he, Option.some.injEq] at h
      subst h
      exact .walkRenewal hr (.expire hp hk)
    next => cases h
  next => cases h

theorem closeRenewal_moves {r : RenewalId} (h : s.closeRenewal r = some s') :
    Moves t s (.closeRenewal r) s' := by
  unfold closeRenewal at h
  split at h
  next hr => cases h; exact .closeRenewal hr rfl
  next => cases h

theorem countRenewal_moves {r : RenewalId} (h : s.countRenewal r = some s') :
    Moves t s (.countRenewal r) s' := by
  unfold countRenewal at h
  split at h
  next hr => cases h; exact .countRenewal hr rfl
  next => cases h

theorem abandonRenewal_moves {r : RenewalId} (h : s.abandonRenewal r = some s') :
    Moves t s (.abandon r) s' := by
  unfold abandonRenewal at h
  split at h
  next hr => cases h; simpa [record] using Moves.walkRenewal (t := t) hr (.abandon (.inl rfl))
  next hr => cases h; simpa [record] using Moves.walkRenewal (t := t) hr (.abandon (.inr rfl))
  next => cases h

/-- Every step is one of the nine kinds. -/
theorem step_moves {a : Action} (h : s.step t a = some s') : Moves t s a s' := by
  cases a with
  | call context style inside hasRuntime => cases h; exact .call
  | cancel c => cases h; exact .cancel
  | decide c now => exact decideCall_moves h
  | enter c => exact enterCall_moves h
  | ask c => exact askCall_moves h
  | answer c answer => exact answerCall_moves h
  | crash c => exact crashCall_moves h
  | withdraw c => exact withdrawCall_moves h
  | close c => exact closeCall_moves h
  | resume c => exact resumeCall_moves h
  | launch c => exact launchCall_moves h
  | settle c now => exact settleCall_moves h
  | finish c => exact finishCall_moves h
  | drop c => exact dropCall_moves h
  | begin r => exact beginRenewal_moves h
  | askRenewal r => exact askRenewal_moves h
  | answerRenewal r answer now => exact answerRenewal_moves h
  | expire r now => exact expireRenewal_moves h
  | closeRenewal r => exact closeRenewal_moves h
  | countRenewal r => exact countRenewal_moves h
  | abandon r => exact abandonRenewal_moves h

end State

/-- What a call can do by itself is a step. -/
theorem Call.Walks.step {t : Timing} {s : State} {c : CallId} {call : Call} {a : Action} {p : Point}
    {lines : List Happening} {tally : Metrics → Metrics} (hw : call.Walks t s c a p lines tally)
    (hc : s.calls[c]? = some call) : s.step t a = some (((s.record lines).count tally).moveCall c p) := by
  obtain ⟨context, style, inside, hasRuntime, cancelled, point⟩ := call
  cases hw with
  | enter hp =>
    cases hp
    simp only [State.step, State.enterCall, hc, State.report]
  | ask hp hn =>
    cases hp; cases hn
    simp [State.step, State.askCall, hc, State.record, State.count]
  | answered hp ht =>
    cases hp
    simp [State.step, State.answerCall, hc, ht, State.report, State.record, State.count]
  | unfit hp ht =>
    cases hp
    simp [State.step, State.answerCall, hc, ht, State.report, State.record, State.count]
  | refused hp =>
    cases hp
    simp [State.step, State.answerCall, hc, State.report, State.record, State.count]
  | crash hp =>
    cases hp
    simp [State.step, State.crashCall, hc, State.record, State.count]
  | withdrawEarly hn hs hp =>
    cases hp; cases hn; cases hs
    simp [State.step, State.withdrawCall, hc, State.record, State.count]
  | withdrawWaiting hn hp =>
    cases hp; cases hn
    cases style <;> simp [State.step, State.withdrawCall, hc, State.record, State.count]
  | withdraw hn hp =>
    cases hn
    rcases hp with hp | hp <;> cases hp <;> cases style <;>
      simp [State.step, State.withdrawCall, hc, State.report, State.record, State.count]
  | again hp ho =>
    cases hp
    simp [State.step, State.resumeCall, hc, ho, Style.resumes_eq, State.record, State.count]
  | @share f o hp ho hn =>
    cases hp
    simp [State.step, State.resumeCall, hc, ho, Style.resumes_eq, hn, State.record, State.count]
  | @finish r exit renewal ending hp hr he =>
    obtain ⟨context', previous, source, flight, point'⟩ := renewal
    cases hp; cases he
    simp [State.step, State.finishCall, hc, hr, State.record, State.count]
  | dropIdle hs hp =>
    cases hs
    rcases hp with hp | ⟨f, hp⟩ <;> cases hp <;>
      simp [State.step, State.dropCall, hc, State.record, State.count]
  | drop hs hp =>
    cases hs; cases hp
    simp [State.step, State.dropCall, hc, State.record, State.count]

theorem State.step_decideCall {t : Timing} {s : State} {c : CallId} {call : Call}
    (hc : s.calls[c]? = some call) (hp : call.point = .deciding)
    (hb : call.style = .blocking → call.cancelled = false) (now : Instant) :
    let decided := s.holding.decide s.outcome? s.flights.length call.context now
    s.step t (.decide c now) = some
      (({ s with holding := decided.1 }.record [.decided c now decided.2]).follow call.style c
        call.context decided.2) := by
  obtain ⟨context, style, inside, hasRuntime, cancelled, point⟩ := call
  cases hp
  cases style with
  | async =>
    simp only [State.step, State.decideCall, hc]
  | blocking =>
    obtain rfl : cancelled = false := hb rfl
    simp only [State.step, State.decideCall, hc]

theorem State.step_closeCall {t : Timing} {s : State} {c : CallId} {call : Call} {f : FlightId}
    {o : Outcome} {exit : Exit} (hc : s.calls[c]? = some call)
    (hp : call.point = .closing f o exit) :
    s.step t (.close c) = some ((s.writeFlight f o).moveCall c (.done exit)) := by
  obtain ⟨context, style, inside, hasRuntime, cancelled, point⟩ := call
  cases hp
  simp only [State.step, State.closeCall, hc]

theorem State.step_launchCall {t : Timing} {s : State} {c : CallId} {call : Call}
    {f source : FlightId} {pass : Pass} (hc : s.calls[c]? = some call)
    (hp : call.point = .launching f source pass) (hh : call.hosted = true) :
    s.step t (.launch c) = some ((s.startRenewal
      { context := call.context, previous := pass, source, flight := f }).moveCall c
        (.done (.returned (.ok pass.header)))) := by
  simp only [State.step, State.launchCall, hc, hp, hh, if_true]

theorem State.step_settleCall {t : Timing} {s : State} {c : CallId} {call : Call}
    {f source : FlightId} {pass : Pass} (hc : s.calls[c]? = some call)
    (hp : call.point = .launching f source pass) (hh : call.hosted = false) (now : Instant) :
    ∃ x, s.step t (.settle c now) = some x := by
  simp [State.step, State.settleCall, hc, hp, hh]

theorem Renewal.Keeps.keepPrevious_eq {s : State} {r : RenewalId} {renewal : Renewal} {now : Instant}
    {delay : Duration} {reason : Reason} {error : String} {p : Point} {lines : List Happening}
    (hk : renewal.Keeps r now delay reason error p lines) :
    s.keepPrevious r renewal now delay reason error = (s.record lines).moveRenewal r p := by
  cases hk with
  | kept hd => simp [State.keepPrevious, hd, State.report, State.record]
  | lost hd => simp [State.keepPrevious, hd, State.record]

/-- What a renewal can do by itself is a step. -/
theorem Renewal.Walks.step {t : Timing} {s : State} {r : RenewalId} {renewal : Renewal} {a : Action}
    {p : Point} {lines : List Happening} (hw : renewal.Walks t r a p lines)
    (hr : s.renewals[r]? = some renewal) :
    s.step t a = some ((s.record lines).moveRenewal r p) := by
  obtain ⟨context, previous, source, flight, point⟩ := renewal
  cases hw with
  | begin hp =>
    cases hp
    simp [State.step, State.beginRenewal, hr, State.report]
  | ask hp =>
    cases hp
    simp [State.step, State.askRenewal, hr]
  | answered hp ht =>
    cases hp
    simp [State.step, State.answerRenewal, hr, ht]
  | unfit hp ht =>
    cases hp
    simp [State.step, State.answerRenewal, hr, ht]
  | refused hp hk =>
    cases hp
    simp only [State.step, State.answerRenewal, hr, hk.keepPrevious_eq]
    simp [State.record]
  | expire hp hk =>
    cases hp
    simp only [State.step, State.expireRenewal, hr, hk.keepPrevious_eq]
  | abandon hp =>
    rcases hp with hp | hp <;> cases hp <;>
      simp [State.step, State.abandonRenewal, hr, State.record]

theorem State.step_closeRenewal {t : Timing} {s : State} {r : RenewalId} {renewal : Renewal}
    {o : Outcome} {ending : Ending} (hr : s.renewals[r]? = some renewal)
    (hp : renewal.point = .closing o ending) : s.step t (.closeRenewal r) =
      some ((s.writeFlight renewal.flight o).moveRenewal r (.written ending)) := by
  obtain ⟨context, previous, source, flight, point⟩ := renewal
  cases hp
  simp only [State.step, State.closeRenewal, hr]

theorem State.step_countRenewal {t : Timing} {s : State} {r : RenewalId} {renewal : Renewal}
    {ending : Ending} (hr : s.renewals[r]? = some renewal) (hp : renewal.point = .written ending) :
    s.step t (.countRenewal r) =
      some ((s.countEnding ending).moveRenewal r (.settled ending)) := by
  obtain ⟨context, previous, source, flight, point⟩ := renewal
  cases hp
  simp only [State.step, State.countRenewal, hr]

end BearerTokens.Cache
