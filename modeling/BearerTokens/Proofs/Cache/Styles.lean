import BearerTokens.Proofs.Cache.Edits
import BearerTokens.Proofs.Cache.Parts

/-! # Threads and tasks

The loop of a task and the loop of a thread are in step while nobody asks to cancel: beside the same
others, with the same answers and the same clock, each arm of the one leaves what the corresponding arm
of the other leaves, and both can go on or neither can.
-/

namespace BearerTokens.Cache

/-- A task that can reach a runtime and a thread that was let in, at the same point for the same context
and neither of them cancelled. -/
inductive Call.Abreast : Call → Call → Prop where
  | mk {context : Context} {point : Point} {inside hasRuntime : Bool}
      (hreach : inside = true ∨ hasRuntime = true) :
      Abreast { context, style := .async, inside, hasRuntime, point }
        { context, style := .blocking, inside := false, hasRuntime := true, point }

theorem Call.Abreast.hosted {task thread : Call} (h : task.Abreast thread) :
    task.hosted = true ∧ thread.hosted = true := by
  cases h with
  | mk hreach => exact ⟨by simpa [Call.hosted, taskHosted] using hreach, rfl⟩

theorem Call.Abreast.point {task thread : Call} (h : task.Abreast thread) :
    thread.point = task.point := by
  cases h
  rfl

namespace State

/-- The states differ only in a call, which is a task in the first and a thread in the second. -/
structure Concurs (c : CallId) (x y : State) : Prop where
  /-- The context that is held, its flight and the flight on standby. -/
  holding : y.holding = x.holding
  flights : y.flights = x.flights
  renewals : y.renewals = x.renewals
  metrics : y.metrics = x.metrics
  /-- The decisions, requests, answers and log entries. -/
  history : y.history = x.history
  others (i : CallId) : i ≠ c → y.calls[i]? = x.calls[i]?
  /-- Where the call is, and what it returned, is the same. -/
  own : ∃ task thread, x.calls[c]? = some task ∧ y.calls[c]? = some thread ∧ task.Abreast thread

variable {t : Timing} {s s' x y : State} {c : CallId} {a : Action} {task thread : Call}

abbrev threaded (x : State) (c : CallId) (thread : Call) : State := x.editCall c fun _ => thread

theorem threaded_calls (thread : Call) (hc : x.calls[c]? = some task) :
    (x.threaded c thread).calls[c]? = some thread := by simp [editCall_own, hc]

theorem threaded_concurs (hc : x.calls[c]? = some task) (h : task.Abreast thread) :
    x.Concurs c (x.threaded c thread) :=
  ⟨rfl, rfl, rfl, rfl, rfl, fun _ => editCall_calls, task, thread, hc, threaded_calls thread hc, h⟩

theorem Concurs.eq_threaded (h : x.Concurs c y) : ∃ task thread, x.calls[c]? = some task ∧
    task.Abreast thread ∧ y = x.threaded c thread := by
  obtain ⟨hholding, hflights, hrenewals, hmetrics, hhistory, hothers, task, thread, hx, hy, habreast⟩ :=
    h
  refine ⟨task, thread, hx, habreast, ?_⟩
  have hcalls : y.calls = (x.threaded c thread).calls := by
    refine List.ext_getElem? fun i => ?_
    by_cases hi : i = c
    · rw [hi, hy, threaded_calls thread hx]
    · rw [hothers i hi, editCall_calls hi]
  cases y
  simp only [threaded, editCall, State.mk.injEq] at *
  exact ⟨hholding, hflights, hcalls, hrenewals, hmetrics, hhistory⟩

/-- Both calls move to the same point. -/
theorem Concurs.moved (hc : x.calls[c]? = some task) (h : task.Abreast thread) (p : Call.Point) :
    (x.moveCall c p).Concurs c ((x.threaded c thread).moveCall c p) := by
  have hmoved : (x.threaded c thread).moveCall c p =
      (x.moveCall c p).threaded c { thread with point := p } := by
    simp only [moveCall, threaded, editCall, List.modify_modify_eq]
    rfl
  rw [hmoved]
  refine threaded_concurs (moveCall_self hc) ?_
  cases h with
  | mk hreach => exact .mk hreach

/-! ## The two loops -/

theorem Concurs.follow (hc : x.calls[c]? = some task) (h : task.Abreast thread) (context : Context)
    (d : Decision) :
    (x.followTask c context d).Concurs c ((x.threaded c thread).followThread c context d) := by
  cases d with
  | serve => exact .moved (x := x.count _) hc h _
  | renew => exact .moved (x := (x.openFlight ..).count _) hc h _
  | acquire => exact .moved (x := x.openFlight ..) hc h _
  | wait => exact .moved (x := x.count _) hc h _

theorem threadResumes_eq (o : Outcome) : Call.threadResumes o = Call.taskResumes o := by
  cases o <;> rfl

section Arms

variable (hc : x.calls[c]? = some task) (h : task.Abreast thread)
include hc h

theorem decide_concurs (now : Instant) :
    Option.Rel (Concurs c) (x.decideCall c now) ((x.threaded c thread).decideCall c now) := by
  have hy := threaded_calls thread hc
  cases id h with
  | @mk context point =>
    cases point with
    | deciding =>
      let decided := x.holding.decide x.outcome? x.flights.length context now
      let held := { x with holding := decided.1 }.record [.decided c now decided.2]
      simp only [decideCall, hc, hy]
      exact .some (.follow (x := held) hc h context decided.2)
    | _ => simp [decideCall, hc, hy]

theorem resume_concurs :
    Option.Rel (Concurs c) (x.resumeCall c) ((x.threaded c thread).resumeCall c) := by
  have hy := threaded_calls thread hc
  cases id h with
  | @mk context point =>
    cases point with
    | waiting f =>
      simp only [resumeCall, hc, hy, editCall_outcome?]
      cases x.outcome? f with
      | none => exact .none
      | some o =>
        simp only [Option.map_some, Style.resumes, threadResumes_eq]
        exact .some (.moved hc h _)
    | _ => simp [resumeCall, hc, hy]

/-! ## Renewals that they start -/

theorem launch_concurs :
    Option.Rel (Concurs c) (x.launchCall c) ((x.threaded c thread).launchCall c) := by
  have hy := threaded_calls thread hc
  obtain ⟨hhosted, hhosted'⟩ := h.hosted
  cases hp : task.point with
  | launching f source pass =>
    have hp' := h.point.trans hp
    simp only [launchCall, hc, hy, hp, hp', hhosted, hhosted', if_true]
    cases id h with
    | mk => exact .some (.moved (x := x.startRenewal _) hc h _)
  | _ => simp [launchCall, hc, hy, hp, h.point]

/-- Neither has to settle a renewal itself. -/
theorem settle_concurs (now : Instant) :
    Option.Rel (Concurs c) (x.settleCall t c now) ((x.threaded c thread).settleCall t c now) := by
  have hy := threaded_calls thread hc
  obtain ⟨hhosted, hhosted'⟩ := h.hosted
  cases hp : task.point with
  | launching => simp [settleCall, hc, hy, hp, h.point, hhosted, hhosted']
  | _ => simp [settleCall, hc, hy, hp, h.point]

theorem finish_concurs :
    Option.Rel (Concurs c) (x.finishCall c) ((x.threaded c thread).finishCall c) := by
  have hy := threaded_calls thread hc
  cases id h with
  | @mk context point =>
    cases point with
    | settling r exit =>
      simp only [finishCall, hc, hy, editCall_renewals]
      split
      · exact .some (.moved hc h _)
      · exact .none
    | _ => simp [finishCall, hc, hy]

/-! ## Acquisitions -/

theorem enter_concurs :
    Option.Rel (Concurs c) (x.enterCall c) ((x.threaded c thread).enterCall c) := by
  have hy := threaded_calls thread hc
  cases id h with
  | @mk context point =>
    cases point with
    | opening f =>
      simp only [enterCall, hc, hy]
      exact .some (.moved (x := (x.report _).count _) hc h _)
    | _ => simp [enterCall, hc, hy]

theorem ask_concurs : Option.Rel (Concurs c) (x.askCall c) ((x.threaded c thread).askCall c) := by
  have hy := threaded_calls thread hc
  cases id h with
  | @mk context point =>
    cases point with
    | calling f =>
      simp only [askCall, hc, hy]
      exact .some (.moved (x := x.record _) hc h _)
    | _ => simp [askCall, hc, hy]

theorem answer_concurs (answer : Answer) :
    Option.Rel (Concurs c) (x.answerCall t c answer) ((x.threaded c thread).answerCall t c answer) := by
  have hy := threaded_calls thread hc
  cases id h with
  | @mk context point =>
    cases point with
    | asking f =>
      simp only [answerCall, hc, hy]
      cases answer with
      | error fault => exact .some (.moved (x := ((x.record _).report _).count _) hc h _)
      | ok token =>
        simp only []
        cases Pass.ofToken? token t.lead with
        | some pass => exact .some (.moved (x := (x.record _).report _) hc h _)
        | none => exact .some (.moved (x := (x.record _).report _) hc h _)
    | _ => simp [answerCall, hc, hy]

theorem crash_concurs :
    Option.Rel (Concurs c) (x.crashCall c) ((x.threaded c thread).crashCall c) := by
  have hy := threaded_calls thread hc
  cases id h with
  | @mk context point =>
    cases point with
    | asking f =>
      simp only [crashCall, hc, hy]
      exact .some (.moved hc h _)
    | _ => simp [crashCall, hc, hy]

theorem close_concurs :
    Option.Rel (Concurs c) (x.closeCall c) ((x.threaded c thread).closeCall c) := by
  have hy := threaded_calls thread hc
  cases id h with
  | @mk context point =>
    cases point with
    | closing f o exit =>
      simp only [closeCall, hc, hy]
      exact .some (.moved (x := x.writeFlight f o) hc h _)
    | _ => simp [closeCall, hc, hy]

theorem withdraw_concurs :
    Option.Rel (Concurs c) (x.withdrawCall c) ((x.threaded c thread).withdrawCall c) := by
  have hy := threaded_calls thread hc
  cases h
  simp [withdrawCall, hc, hy]

end Arms

/-! ## Rows of actions -/

/-- What others do leaves a call where it is. -/
theorem step_own (ha : a.Of c = false) (hc : s.calls[c]? = some task) (h : s.step t a = some s') :
    s'.calls[c]? = some task := by
  have hself : s.editCall c (fun _ => task) = s := by
    have hcalls : s.calls.modify c (fun _ => task) = s.calls := by
      refine List.ext_getElem? fun i => ?_
      by_cases hi : c = i
      · subst hi
        simp [hc]
      · simp [List.getElem?_modify_ne _ _ hi]
    simp only [editCall, hcalls]
  have hstep := step_editCall (t := t) (g := fun _ => task) ha (List.getElem?_eq_some_iff.mp hc).1
  rw [hself, h] at hstep
  have hsame : s' = s'.editCall c fun _ => task := by simpa using hstep
  obtain ⟨call, hcall, -⟩ := (step_moves h).extends.call c task hc
  rw [hsame, editCall_own, hcall]
  rfl

theorem Concurs.step (h : x.Concurs c y) (hcancel : a ≠ .cancel c) (hdrop : a ≠ .drop c) :
    Option.Rel (Concurs c) (x.step t a) (y.step t a) := by
  obtain ⟨task, thread, hc, habreast, rfl⟩ := h.eq_threaded
  cases ha : a.Of c with
  | false =>
    rw [step_editCall ha (List.getElem?_eq_some_iff.mp hc).1]
    cases hx : x.step t a with
    | none => exact .none
    | some x' => exact .some (threaded_concurs (step_own ha hc hx) habreast)
  | true =>
    have hid : ∀ {i}, (i == c) = true → i = c := fun h => by simpa using h
    cases a with
    | cancel => exact absurd (congrArg _ (hid ha)) hcancel
    | drop => exact absurd (congrArg _ (hid ha)) hdrop
    | decide => obtain rfl := hid ha; exact decide_concurs hc habreast _
    | enter => obtain rfl := hid ha; exact enter_concurs hc habreast
    | ask => obtain rfl := hid ha; exact ask_concurs hc habreast
    | answer => obtain rfl := hid ha; exact answer_concurs hc habreast _
    | crash => obtain rfl := hid ha; exact crash_concurs hc habreast
    | withdraw => obtain rfl := hid ha; exact withdraw_concurs hc habreast
    | close => obtain rfl := hid ha; exact close_concurs hc habreast
    | resume => obtain rfl := hid ha; exact resume_concurs hc habreast
    | launch => obtain rfl := hid ha; exact launch_concurs hc habreast
    | settle => obtain rfl := hid ha; exact settle_concurs hc habreast _
    | finish => obtain rfl := hid ha; exact finish_concurs hc habreast
    | _ => cases ha

theorem Concurs.run {actions : List Action} (h : x.Concurs c y)
    (ha : ∀ a ∈ actions, a ≠ .cancel c ∧ a ≠ .drop c) :
    Option.Rel (Concurs c) (x.run? t actions) (y.run? t actions) := by
  induction actions generalizing x y with
  | nil => exact .some h
  | cons a actions ih =>
    obtain ⟨⟨hcancel, hdrop⟩, ha⟩ := List.forall_mem_cons.mp ha
    have hstep := h.step (t := t) hcancel hdrop
    rw [run?_cons, run?_cons]
    generalize x.step t a = x', y.step t a = y' at hstep ⊢
    cases hstep with
    | none => exact .none
    | some h' => exact ih h' ha

/-- A call that can reach a runtime and is not cancelled comes to the same as a task and as a thread that
is let in: along the same actions of all others, of the credential and of the clock either goes on
exactly when the other does, returns the same, starts the same renewals and leaves everything shared the
same.  A task could be dropped besides, a thread cannot. -/
theorem styles_concur (t : Timing) (s : State) (context : Context) {inside hasRuntime : Bool}
    (hreach : inside = true ∨ hasRuntime = true) {actions : List Action}
    (ha : ∀ a ∈ actions, a ≠ .cancel s.calls.length ∧ a ≠ .drop s.calls.length) :
    Option.Rel (Concurs s.calls.length)
      ((s.call context .async inside hasRuntime).run? t actions)
      ((s.call context .blocking false true).run? t actions) := by
  have hstart : (s.call context .async inside hasRuntime).Concurs s.calls.length
      (s.call context .blocking false true) := by
    refine ⟨rfl, rfl, rfl, rfl, rfl, fun i hi => ?_,
      { context, style := .async, inside, hasRuntime },
      { context, style := .blocking, hasRuntime := true }, ?_, ?_, .mk hreach⟩
    · simp only [call, getElem?_concat, if_neg hi]
    · simp [call, Style.refusal?]
    · simp [call, Style.refusal?, threadRefusal?]
  exact hstart.run ha

/-- The call waits and the flight is given up; meanwhile another one acquires a token, which is due by
the time that the call decides again, and the call starts its renewal. -/
def relayedRow : List Action :=
  [.decide 1 ⟨1⟩, .cancel 0, .withdraw 0, .close 0, .call {} .async true true, .decide 2 ⟨2⟩, .enter 2,
    .ask 2, .answer 2 (.ok (.ofText "T1" ⟨600000000000⟩)), .close 2, .resume 1,
    .decide 1 ⟨400000000000⟩, .launch 1, .begin 0, .askRenewal 0,
    .answerRenewal 0 (.ok (.ofText "T2" ⟨1200000000000⟩)) ⟨400000000000⟩, .closeRenewal 0,
    .countRenewal 0]

theorem styles_concur_relayedRow : ∃ s x y,
    State.run? {} {} [.call {} .async true true, .decide 0 ⟨0⟩, .enter 0, .ask 0] = some s ∧
    (s.call {} .async true true).run? {} relayedRow = some x ∧
    (s.call {} .blocking false true).run? {} relayedRow = some y ∧ x.Concurs 1 y ∧
    y.calls[1]?.map (·.point) = some (.done (.returned (.ok "Bearer T1"))) ∧
    y.metrics.succeeded = 1 := by
  obtain ⟨s, x, y, h, hx, hy, hlength, hpoint, hsucceeded⟩ : ∃ s x y,
      State.run? {} {} [.call {} .async true true, .decide 0 ⟨0⟩, .enter 0, .ask 0] = some s ∧
      (s.call {} .async true true).run? {} relayedRow = some x ∧
      (s.call {} .blocking false true).run? {} relayedRow = some y ∧ s.calls.length = 1 ∧
      y.calls[1]?.map (·.point) = some (.done (.returned (.ok "Bearer T1"))) ∧
      y.metrics.succeeded = 1 := ⟨_, _, _, rfl, rfl, rfl, rfl, rfl, rfl⟩
  have ha : ∀ a ∈ relayedRow, a ≠ .cancel s.calls.length ∧ a ≠ .drop s.calls.length := by
    rw [hlength]
    simp [relayedRow]
  have hrel : Option.Rel (Concurs s.calls.length) ((s.call {} .async true true).run? {} relayedRow)
      ((s.call {} .blocking false true).run? {} relayedRow) := styles_concur {} s {} (.inl rfl) ha
  rw [hx, hy, hlength] at hrel
  cases hrel with
  | some hconcurs => exact ⟨s, x, y, h, hx, hy, hconcurs, hpoint, hsucceeded⟩

end State

end BearerTokens.Cache
