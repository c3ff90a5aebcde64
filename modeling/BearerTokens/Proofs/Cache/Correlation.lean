import BearerTokens.Proofs.Cache.Secrecy

/-! # Runs with other correlation ids

The correlation id of a context stands in the log and does nothing else.  If two rows of actions differ
only in the ids of the contexts that calls are made for, then they lead to the same answers, decisions,
requests and counters, and the logs name the same fingerprints.  The contexts that are held, asked for
and reported may carry different ids at every place.
-/

namespace BearerTokens

def Recast.anonymous : Recast :=
  { Recast.reword .same with
    context := fun c => { c with correlation := none }
    equivalent := fun _ _ => .rfl }

theorem Context.Equivalent.anonymous_eq {a b : Context} (h : a.Equivalent b) :
    Recast.anonymous.context a = Recast.anonymous.context b := by
  obtain ⟨hscopes, hclaims⟩ := h
  simp [Recast.anonymous, hscopes, hclaims]

theorem Context.anonymous_equivalent (c : Context) : (Recast.anonymous.context c).Equivalent c :=
  ⟨rfl, rfl⟩

/-! ## What ids have no part in -/

theorem Outcome.recast_anonymous (o : Outcome) : o.recast .anonymous = o := by
  cases o <;> rfl

theorem Entry.print_anonymous (e : Entry) : (e.recast .anonymous).print = e.print := by
  have hprint (c : Context) : (Recast.anonymous.context c).fingerprint = c.fingerprint :=
    c.anonymous_equivalent.fingerprint_eq
  cases e <;> simp [print, context?, hprint]

def Entry.Shown.unnamed : Entry.Shown → Entry.Shown
  | .span name fields => .span name (fields.filter (·.1 ≠ "correlation_id"))
  | .counter name labels => .counter name (labels.filter (·.1 ≠ "correlation_id"))
  | .event level fields => .event level (fields.filter (·.1 ≠ "correlation_id"))

theorem Context.logFields_anonymous (c : Context) : (Recast.anonymous.context c).logFields =
    c.logFields.filter (·.1 ≠ "correlation_id") := by
  have hprint := c.anonymous_equivalent.fingerprint_eq
  unfold logFields
  rw [hprint]
  cases c.correlation <;> simp [Recast.anonymous]

theorem Entry.shown_anonymous (e : Entry) : (e.recast .anonymous).shown = e.shown.unnamed := by
  cases e <;> simp [shown, Shown.unnamed, Context.logFields_anonymous]

namespace Cache

theorem Exit.recast_anonymous (exit : Exit) : exit.recast .anonymous = exit := by
  cases exit with
  | returned answer => cases answer <;> rfl
  | dropped | crashed => rfl

theorem Call.Point.recast_anonymous (p : Call.Point) : p.recast .anonymous = p := by
  cases p with
  | closing f o exit => exact congrArg₂ (closing f) o.recast_anonymous exit.recast_anonymous
  | settling r exit => exact congrArg (settling r) exit.recast_anonymous
  | done exit => exact congrArg done exit.recast_anonymous
  | _ => rfl

def Happening.decision? : Happening → Option (CallId × Instant × Decision)
  | .decided c now d => some (c, now, d)
  | _ => none

def Happening.requester? : Happening → Option Requester
  | .asked q _ => some q
  | _ => none

theorem Happening.decision?_anonymous (line : Happening) :
    (line.recast .anonymous).decision? = line.decision? := by
  cases line with
  | decided c now d => cases d <;> rfl
  | _ => rfl

theorem Happening.requester?_anonymous (line : Happening) :
    (line.recast .anonymous).requester? = line.requester? := by
  cases line <;> rfl

/-! ## Two runs -/

/-- The same action, but for the correlation id of the context that a call is made for. -/
inductive Action.Akin : Action → Action → Prop where
  | call {context context' : Context} {style : Style} {inside hasRuntime : Bool}
      (he : context.Equivalent context') :
      Akin (.call context style inside hasRuntime) (.call context' style inside hasRuntime)
  | same (a : Action) : Akin a a

theorem Action.Akin.anonymous_eq {a a' : Action} (h : a.Akin a') :
    a.recast .anonymous = a'.recast .anonymous := by
  cases h with
  | call he => simp [recast, he.anonymous_eq]
  | same => rfl

namespace State

structure Agrees (s s' : State) : Prop where
  struck : s'.recast .anonymous = s.recast .anonymous
  /-- Each call is where the other is on its way, so both have returned the same if anything. -/
  points : s'.calls.map (·.point) = s.calls.map (·.point)
  current : s'.holding.current = s.holding.current
  standby : s'.holding.standby = s.holding.standby
  decisions : s'.history.map Happening.decision? = s.history.map Happening.decision?
  requests : s'.history.map Happening.requester? = s.history.map Happening.requester?
  metrics : s'.metrics = s.metrics
  prints : s'.log.map Entry.print = s.log.map Entry.print
  shown : s'.log.map (·.shown.unnamed) = s.log.map (·.shown.unnamed)

variable {t : Timing} {s s' : State} {actions actions' : List Action}

theorem points_anonymous (s : State) :
    (s.recast .anonymous).calls.map (·.point) = s.calls.map (·.point) := by
  have hpoint (call : Call) : (call.recast .anonymous).point = call.point :=
    call.point.recast_anonymous
  simp [recast, hpoint]

theorem history_anonymous {α : Type} {f : Happening → α}
    (hf : ∀ line : Happening, f (line.recast .anonymous) = f line) (s : State) :
    (s.recast .anonymous).history.map f = s.history.map f := by
  rw [recast, List.map_map]
  exact List.map_congr_left fun line _ => hf line

theorem log_anonymous {α : Type} {f g : Entry → α}
    (hf : ∀ e : Entry, f (e.recast .anonymous) = g e) (s : State) :
    (s.recast .anonymous).log.map f = s.log.map g := by
  rw [recast_log, List.map_map]
  exact List.map_congr_left fun e _ => hf e

theorem Agrees.of_struck (h : s'.recast .anonymous = s.recast .anonymous) : s.Agrees s' where
  struck := h
  points := by rw [← s'.points_anonymous, h, s.points_anonymous]
  current := congrArg (·.holding.current) h
  standby := congrArg (·.holding.standby) h
  decisions := by
    rw [← history_anonymous Happening.decision?_anonymous s', h,
      history_anonymous Happening.decision?_anonymous s]
  requests := by
    rw [← history_anonymous Happening.requester?_anonymous s', h,
      history_anonymous Happening.requester?_anonymous s]
  metrics := congrArg (·.metrics) h
  prints := by
    rw [← log_anonymous Entry.print_anonymous s', h, log_anonymous Entry.print_anonymous s]
  shown := by
    rw [← log_anonymous Entry.shown_anonymous s', h, log_anonymous Entry.shown_anonymous s]

/-- Of two rows that differ in correlation ids alone both can be run or neither, and the states agree. -/
theorem runs_agree (hakin : List.Forall₂ Action.Akin actions actions') :
    Option.Rel Agrees (run? t {} actions) (run? t {} actions') := by
  have hrow : actions.map (Action.recast .anonymous) = actions'.map (Action.recast .anonymous) := by
    induction hakin with
    | nil => rfl
    | cons ha _ ih => rw [List.map_cons, List.map_cons, ha.anonymous_eq, ih]
  have hrun (row : List Action) : (run? t {} row).map (State.recast .anonymous) =
      run? t {} (row.map (Action.recast .anonymous)) := (recast_run? (s := {}) row).symm
  have heq := (hrun actions').trans ((congrArg (run? t {}) hrow.symm).trans (hrun actions).symm)
  cases h : run? t {} actions with
  | none =>
    rw [h] at heq
    rw [Option.map_eq_none_iff.mp heq]
    exact .none
  | some s =>
    rw [h] at heq
    obtain ⟨s', h', hstruck⟩ := Option.map_eq_some_iff.mp heq
    rw [h']
    exact .some (.of_struck hstruck)

end State

/-- A token is acquired for one request and renewed in vain for another, while a third one waits
for the first. -/
def namedRow (first second third : Option String) : List Action :=
  [.call { correlation := first } .async false true, .decide 0 ⟨0⟩, .enter 0,
    .call { correlation := third } .blocking false true, .decide 1 ⟨0⟩, .ask 0,
    .answer 0 (.ok (.ofText "T1" ⟨600000000000⟩)), .close 0, .resume 1,
    .call { correlation := second } .async false true, .decide 2 ⟨400000000000⟩,
    .launch 2, .begin 0, .askRenewal 0,
    .answerRenewal 0 (.error (.unavailable "down")) ⟨400000000000⟩, .closeRenewal 0, .countRenewal 0]

theorem runs_agree_namedRow : ∃ s s',
    State.run? {} {} (namedRow (some "a") (some "b") none) = some s ∧
    State.run? {} {} (namedRow none (some "c") (some "d")) = some s' ∧ s.Agrees s' ∧
    s.log ≠ s'.log := by
  have hakin : List.Forall₂ Action.Akin (namedRow (some "a") (some "b") none)
      (namedRow none (some "c") (some "d")) := by
    repeat' first | exact .nil | refine .cons (.call ⟨rfl, rfl⟩) ?_ | refine .cons (.same _) ?_
  obtain ⟨s, s', h, h', hlog⟩ : ∃ s s',
      State.run? {} {} (namedRow (some "a") (some "b") none) = some s ∧
      State.run? {} {} (namedRow none (some "c") (some "d")) = some s' ∧ s.log ≠ s'.log :=
    ⟨_, _, rfl, rfl, by decide⟩
  have hruns := State.runs_agree (t := {}) hakin
  rw [h, h'] at hruns
  cases hruns with
  | some hs => exact ⟨s, s', h, h', hs, hlog⟩

end Cache

end BearerTokens
